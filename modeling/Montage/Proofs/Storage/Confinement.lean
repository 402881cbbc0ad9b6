/-
  Montage.Proofs.Storage.Confinement

  Keys that do not lead out of their bucket.  A user id stands in front of the keys of its
  jobs as it was submitted, and it is read as a path: it leads out of some bucket exactly if it
  is empty, starts with a slash, or takes back more names than it has given.  With any other
  user id, all that is done with these keys happens inside the bucket.
-/
import Mathlib.Data.Fintype.EquivFin
import Montage.Proofs.File.Sight
import Montage.Proofs.Storage.Keys

namespace Montage.File

/-! ## Names that lead up -/

namespace Place

/-- Whether names never lead above the place from which `depth` names led down to where they
    start. -/
def staysBelow (depth : Nat) : List String → Bool
  | [] => true
  | name :: rest =>
    if name = ".." then depth ≠ 0 && staysBelow (depth - 1) rest else staysBelow (depth + 1) rest

theorem staysBelow_up (inner : Place) (rest : List String) :
    staysBelow inner.length (".." :: rest) =
      (inner ≠ [] && staysBelow inner.dropLast.length rest) := by
  rw [staysBelow, if_pos rfl, List.length_dropLast]
  simp

theorem staysBelow_down (inner : Place) {name : String} (h : name ≠ "..") (rest : List String) :
    staysBelow inner.length (name :: rest) = staysBelow (inner ++ [name]).length rest := by
  rw [staysBelow, if_neg h, List.length_append, List.length_singleton]

/-- Names that lead down do not end what stays below. -/
theorem staysBelow_append {depth : Nat} {names more : List String}
    (h : staysBelow depth names = true) (hmore : ".." ∉ more) :
    staysBelow depth (names ++ more) = true := by
  induction names generalizing depth with
  | nil =>
      clear h
      induction more generalizing depth with
      | nil => rfl
      | cons name rest ih =>
          rw [List.mem_cons, not_or] at hmore
          rw [List.nil_append, staysBelow, if_neg (Ne.symm hmore.1)]
          exact ih hmore.2
  | cons name rest ih =>
      rw [staysBelow] at h
      rw [List.cons_append, staysBelow]
      split
      next hup =>
        rw [if_pos hup, Bool.and_eq_true] at h
        rw [h.1, ih h.2]
        rfl
      next hup =>
        rw [if_neg hup] at h
        exact ih h

variable {here inner place : Place} {names : List String}

theorem IsAlong.of_append {more : List String} (h : IsAlong here (names ++ more) place) :
    IsAlong here names place ∨ IsAlong (reach here names) more place := by
  rcases h with hpassed | hreach
  · rw [passed_append] at hpassed
    exact (List.mem_append.mp hpassed).imp .inl .inl
  · rw [reach_append] at hreach
    exact .inr (.inr hreach)

/-- Names that stay below a place pass only places below it. -/
theorem prefix_of_isAlong (h : staysBelow inner.length names = true)
    (hplace : IsAlong (here ++ inner) names place) : here <+: place := by
  induction names generalizing inner with
  | nil =>
      rcases hplace with hpassed | rfl
      · cases hpassed
      · exact List.prefix_append here inner
  | cons name rest ih =>
      have hnext : IsAlong (advance (here ++ inner) name) rest place ∨ place = here ++ inner := by
        rcases hplace with hpassed | hreach
        · exact (List.mem_cons.mp hpassed).symm.imp .inl id
        · exact .inl (.inr hreach)
      rcases hnext with hrest | rfl
      · by_cases hup : name = ".."
        · subst hup
          rw [staysBelow_up, Bool.and_eq_true, decide_eq_true_eq] at h
          rw [advance, if_pos rfl, List.dropLast_append_of_ne_nil h.1] at hrest
          exact ih h.2 hrest
        · rw [staysBelow_down inner hup] at h
          rw [advance, if_neg hup, List.append_assoc] at hrest
          exact ih h hrest
      · exact List.prefix_append here inner

/-- Names that do not stay below a place lead on from above it. -/
theorem reach_of_climbs (h : staysBelow inner.length names = false) :
    ∃ rest, rest ⊆ names ∧ reach (here ++ inner) names = reach here.dropLast rest := by
  induction names generalizing inner with
  | nil => cases h
  | cons name rest ih =>
      by_cases hup : name = ".."
      · subst hup
        rw [staysBelow_up] at h
        show ∃ later, later ⊆ ".." :: rest ∧
          reach (advance (here ++ inner) "..") rest = reach here.dropLast later
        rw [advance, if_pos rfl]
        by_cases hinner : inner = []
        · subst hinner
          -- here the names leave the place; where they lead from now on does not matter
          exact ⟨rest, List.subset_cons_self _ _, by rw [List.append_nil]⟩
        · rw [decide_eq_true hinner, Bool.true_and] at h
          obtain ⟨later, hsubset, hreach⟩ := ih h
          rw [List.dropLast_append_of_ne_nil hinner]
          exact ⟨later, List.subset_cons_of_subset _ hsubset, hreach⟩
      · rw [staysBelow_down inner hup] at h
        obtain ⟨later, hsubset, hreach⟩ := ih h
        refine ⟨later, List.subset_cons_of_subset _ hsubset, ?_⟩
        rw [← hreach, ← List.append_assoc]
        show reach (advance (here ++ inner) name) rest = _
        rw [advance, if_neg hup]

/-- The names of a place come from where one started, or from the way. -/
theorem mem_reach {name : String} (h : name ∈ reach here names) : name ∈ here ∨ name ∈ names := by
  induction names generalizing here with
  | nil => exact .inl h
  | cons first rest ih =>
      rcases ih h with hhere | hrest
      · rw [advance] at hhere
        split at hhere
        · exact .inl ((List.dropLast_sublist here).subset hhere)
        · rcases List.mem_append.mp hhere with hold | hnew
          · exact .inl hold
          · exact .inr (List.mem_singleton.mp hnew ▸ List.mem_cons_self)
      · exact .inr (List.mem_cons_of_mem _ hrest)

end Place

/-- The place of a path for someone who works in a directory, whatever the files are. -/
def Path.placeFrom (here : Place) (path : Path) : Place :=
  match path.root with
  | .relative => Place.reach here path.names
  | _ => Place.reach [] path.names

/-- A path starts from the root exactly if a slash stands in front. -/
theorem Path.rootOf_eq_relative_iff {text : List Char} :
    rootOf text = .relative ↔ text.head? ≠ some '/' := by
  unfold rootOf
  split
  · simp
  · simp
  · simp
  next hslash =>
    refine iff_of_true rfl fun hhead => ?_
    obtain ⟨rest, rfl⟩ := List.head?_eq_some_iff.mp hhead
    exact hslash rest rfl

theorem Path.placeFrom_append (here : Place) (root : Root) (before after : List String) :
    placeFrom here ⟨root, before ++ after⟩ = Place.reach (placeFrom here ⟨root, before⟩) after := by
  cases root <;> exact Place.reach_append _ before after

end Montage.File

namespace Montage.Storage

open Montage.File Montage.Jobs

/-! ## Keys that stay inside -/

/-- Whether a user id stays inside of every bucket: it names something, does not start anew from
    the root, and never takes back more names than it has given. -/
def isContained (userId : String) : Bool :=
  userId ≠ "" && userId.toList.head? ≠ some '/' &&
    Place.staysBelow 0 (Path.ofText userId).names

theorem root_jobKey_iff {userId : String} {id : JobId} {file : String} :
    (Path.ofText (jobKey userId id file)).root = .relative ↔
      userId ≠ "" ∧ userId.toList.head? ≠ some '/' := by
  have hkey : (jobKey userId id file).toList =
      userId.toList ++ '/' :: (id.text ++ "/" ++ file).toList := by
    simp [jobKey]
  rw [Path.ofText, Path.rootOf_eq_relative_iff, hkey, ne_eq userId, ← String.toList_eq_nil_iff]
  cases userId.toList with
  | nil => simp
  | cons c rest => simp

/-- Whether a key leads to a place strictly below its bucket. -/
def Bucket.Confines (bucket : Bucket) (here : Place) (key : String) : Prop :=
  ∃ inner, inner ≠ [] ∧ (bucket.path key).placeFrom here = bucket.base.placeFrom here ++ inner

section

variable {userId : String} {file : String} (hfile : Path.IsPlainName file)

include hfile

theorem path_jobKey (hroot : userId ≠ "" ∧ userId.toList.head? ≠ some '/') (bucket : Bucket)
    (id : JobId) : bucket.path (jobKey userId id file) =
      ⟨bucket.base.root,
        bucket.base.names ++ ((Path.ofText userId).names ++ [id.text, file])⟩ := by
  rw [Bucket.path, Path.child, Path.join, root_jobKey_iff.mpr hroot, names_jobKey userId id hfile]

/-- With a slash in front, a key starts anew from the root. -/
theorem path_jobKey_of_root (hroot : ¬ (userId ≠ "" ∧ userId.toList.head? ≠ some '/'))
    (bucket : Bucket) (here : Place) (id : JobId) :
    (bucket.path (jobKey userId id file)).placeFrom here =
      Place.reach [] ((Path.ofText userId).names ++ [id.text, file]) := by
  have hkey : (Path.ofText (jobKey userId id file)).root ≠ .relative :=
    fun hrelative => hroot (root_jobKey_iff.mp hrelative)
  rw [Bucket.path, Path.child, Path.join, ← names_jobKey userId id hfile]
  generalize Path.ofText (jobKey userId id file) = path at hkey ⊢
  obtain ⟨root, names⟩ := path
  cases root with
  | relative => exact absurd rfl hkey
  | absolute => rfl
  | network => rfl

/-- The id of the job and the name of the file lead down, wherever the user id has led. -/
theorem reach_jobKey (here : Place) (id : JobId) :
    Place.reach here ((Path.ofText userId).names ++ [id.text, file]) =
      Place.reach here (Path.ofText userId).names ++ [id.text, file] := by
  have hsplit : (Path.ofText userId).names ++ [id.text, file] =
      (Path.ofText userId).names ++ [id.text] ++ [file] := by
    rw [List.append_assoc, List.singleton_append]
  rw [hsplit, Place.reach_concat _ _ hfile.notUp, Place.reach_concat _ _ id.isPlainName_text.notUp,
    List.append_assoc, List.singleton_append]

theorem confines_of_isContained (h : isContained userId = true) (bucket : Bucket) (here : Place)
    (id : JobId) : bucket.Confines here (jobKey userId id file) := by
  simp only [isContained, Bool.and_eq_true, decide_eq_true_eq] at h
  obtain ⟨hroot, hbelow⟩ := h
  let base := bucket.base.placeFrom here
  have hprefix : base <+: Place.reach base (Path.ofText userId).names := by
    refine @Place.prefix_of_isAlong base [] _ _ hbelow (.inr ?_)
    rw [List.append_nil]
  obtain ⟨inner, hinner⟩ := hprefix
  refine ⟨inner ++ [id.text, file], List.append_ne_nil_of_right_ne_nil _ (by simp), ?_⟩
  rw [path_jobKey hfile hroot, Path.placeFrom_append, reach_jobKey hfile, ← List.append_assoc]
  exact congrArg (· ++ [id.text, file]) hinner.symm

/-- A user id that is not contained leads out of a bucket whose name it does not mention. -/
theorem exists_not_confines (h : isContained userId = false) (id : JobId) :
    ∃ bucket : Bucket, ¬ bucket.Confines [] (jobKey userId id file) := by
  let mentioned := (Path.ofText userId).names ++ [id.text, file]
  obtain ⟨name, hfresh⟩ := Infinite.exists_notMem_finset (".." :: mentioned).toFinset
  rw [List.mem_toFinset, List.mem_cons, not_or] at hfresh
  obtain ⟨hup, hname⟩ := hfresh
  have hbase : Path.placeFrom [] ⟨.absolute, [name]⟩ = [name] := if_neg hup
  refine ⟨⟨.absolute, [name]⟩, ?_⟩
  rintro ⟨inner, -, hplace⟩
  -- the place of the key would have to mention the bucket
  have hmem : name ∈ (Bucket.path ⟨.absolute, [name]⟩ (jobKey userId id file)).placeFrom [] := by
    rw [hplace, hbase]
    exact List.mem_cons_self
  refine hname ?_
  by_cases hroot : userId ≠ "" ∧ userId.toList.head? ≠ some '/'
  · have hclimbs : Place.staysBelow 0 (Path.ofText userId).names = false := by
      simpa [isContained, hroot.1, hroot.2] using h
    obtain ⟨rest, hrest, hreach⟩ := @Place.reach_of_climbs [name] [] _ hclimbs
    rw [path_jobKey hfile hroot, Path.placeFrom_append, hbase, reach_jobKey hfile] at hmem
    rw [List.append_nil] at hreach
    rw [hreach] at hmem
    rcases List.mem_append.mp hmem with hin | hlast
    · rcases Place.mem_reach hin with hnone | hnames
      · cases hnone
      · exact List.mem_append_left _ (hrest hnames)
    · exact List.mem_append_right _ hlast
  · rw [path_jobKey_of_root hfile hroot] at hmem
    exact (Place.mem_reach hmem).resolve_left List.not_mem_nil

/-- The keys of a user stay inside of all buckets exactly if the user id is contained. -/
theorem forall_confines_iff (id : JobId) :
    (∀ (bucket : Bucket) (here : Place), bucket.Confines here (jobKey userId id file)) ↔
      isContained userId = true := by
  constructor
  · intro hall
    by_contra hcontained
    obtain ⟨bucket, hescape⟩ := exists_not_confines hfile (Bool.eq_false_iff.mpr hcontained) id
    exact hescape (hall bucket [])
  · exact fun h bucket here => confines_of_isContained hfile h bucket here id

example : isContained "team/../u" = true := by decide +kernel

example : isContained "u/../.." = false := by decide +kernel

/-- The places along a contained key are on the way to its bucket, or in it. -/
theorem along_of_isContained (h : isContained userId = true) (bucket : Bucket) (id : JobId)
    {place : Place} (hplace : (bucket.path (jobKey userId id file)).Along place) :
    bucket.base.Along place ∨ Place.reach [] bucket.base.names <+: place := by
  simp only [isContained, Bool.and_eq_true, decide_eq_true_eq] at h
  obtain ⟨hroot, hbelow⟩ := h
  have hdown : ".." ∉ [id.text, file] := by
    have hid : ".." ≠ id.text := Ne.symm id.isPlainName_text.notUp
    simp [hid, Ne.symm hfile.notUp]
  have hwhole := Place.staysBelow_append hbelow hdown
  rw [path_jobKey hfile hroot] at hplace
  rcases Place.IsAlong.of_append hplace with hbase | hinside
  · exact .inl hbase
  · refine .inr (@Place.prefix_of_isAlong _ [] _ _ hwhole ?_)
    rwa [List.append_nil]

end

/-! ## Calls that stay inside -/

namespace Bucket

/-- The place of a bucket. -/
def place (bucket : Bucket) : Place :=
  Place.reach [] bucket.base.names

/-- Whether a path leads into a bucket, and on its way to the bucket only through places that
    lead there. -/
structure Encloses (bucket : Bucket) (path : Path) : Prop where
  way : ∀ place, path.Along place → bucket.place <+: place ∨ bucket.base.Along place
  last : bucket.place <+: Place.reach [] path.names

theorem Encloses.child {bucket : Bucket} {path : Path} (h : bucket.Encloses path) {name : String}
    (hname : Path.IsPlainName name) : bucket.Encloses (path.child name) := by
  have hlast : bucket.place <+: Place.reach [] (path.child name).names := by
    rw [Path.child_of_plain hname, Place.reach_concat _ _ hname.notUp]
    exact h.last.trans (List.prefix_append _ _)
  refine ⟨fun place hplace => ?_, hlast⟩
  rcases hplace with hpassed | rfl
  · rw [Path.child_of_plain hname] at hpassed
    exact h.way place (Place.isAlong_concat.mp hpassed)
  · exact .inl hlast

theorem encloses_of_isContained {userId file : String} (hfile : Path.IsPlainName file)
    (h : isContained userId = true) (bucket : Bucket) (id : JobId) :
    bucket.Encloses (bucket.path (jobKey userId id file)) := by
  refine ⟨fun place hplace => (along_of_isContained hfile h bucket id hplace).symm, ?_⟩
  have hfrom : ∀ path : Path, path.placeFrom [] = Place.reach [] path.names := by
    rintro ⟨root, names⟩
    cases root <;> rfl
  obtain ⟨inner, -, hplace⟩ := confines_of_isContained hfile h bucket [] id
  rw [hfrom, hfrom] at hplace
  exact ⟨inner, hplace.symm⟩

/-- Whether nothing has changed, except that a directory may have been made where it was
    missing. -/
def MakesAtMost (onWay : Prop) (before after : Option Entry) : Prop :=
  after = before ∨ onWay ∧ before = none ∧ after = some .directory

instance (onWay : Prop) : IsPreorder (Option Entry) (MakesAtMost onWay) where
  refl _ := .inl rfl
  trans _ _ _ hfirst hsecond := by
    rcases hsecond with rfl | ⟨hway, rfl, rfl⟩
    · exact hfirst
    · rcases hfirst with rfl | ⟨-, -, hnone⟩
      · exact .inr ⟨hway, rfl, rfl⟩
      · cases hnone

/-- Whether a call leaves alone what is outside of a bucket, and does not look at it either; some
    other places it may look at. -/
structure KeepsInside {α : Type} (bucket : Bucket) (looksAt : Place → Prop) (call : Call α) :
    Prop where
  /-- Outside of the bucket, missing directories on the way to it are made, and no more. -/
  changes : ∀ place, ¬ bucket.place <+: place →
    Call.KeepsTo (MakesAtMost (bucket.base.Along place)) place call
  sees : Call.SeesOnly
    (fun place => bucket.place <+: place ∨ bucket.base.Along place ∨ looksAt place) call

section

variable {α β : Type} {bucket : Bucket} {looksAt : Place → Prop} {path : Path}

theorem keepsInside_of_looks {call : Call α} {seen : Place → Prop} (h : Call.Looks call)
    (hsees : Call.SeesOnly seen call)
    (hseen : ∀ place, seen place →
      bucket.place <+: place ∨ bucket.base.Along place ∨ looksAt place) :
    KeepsInside bucket looksAt call :=
  ⟨fun _ _ => h.keepsTo, hsees.mono hseen⟩

theorem keepsInside_pure (a : α) : KeepsInside bucket looksAt (pure a : Call α) :=
  ⟨fun _ _ => (Call.looks_pure a).keepsTo, Call.seesOnly_pure a⟩

theorem keepsInside_throw (fault : Fault) : KeepsInside bucket looksAt (throw fault : Call α) :=
  ⟨fun _ _ => (Call.looks_throw fault).keepsTo, Call.seesOnly_throw fault⟩

theorem KeepsInside.bind {call : Call α} {next : α → Call β} (h : KeepsInside bucket looksAt call)
    (hnext : ∀ a, KeepsInside bucket looksAt (next a)) :
    KeepsInside bucket looksAt (call >>= next) :=
  ⟨fun place hplace => Call.keepsTo_bind (h.changes place hplace) fun a =>
      (hnext a).changes place hplace,
    Call.seesOnly_bind h.sees fun a => (hnext a).sees⟩

theorem KeepsInside.tryCatch {call : Call α} {handler : Fault → Call α}
    (h : KeepsInside bucket looksAt call)
    (hhandler : ∀ fault, KeepsInside bucket looksAt (handler fault)) :
    KeepsInside bucket looksAt (tryCatch call handler) :=
  ⟨fun place hplace => Call.keepsTo_tryCatch (h.changes place hplace) fun fault =>
      (hhandler fault).changes place hplace,
    Call.seesOnly_tryCatch h.sees fun fault => (hhandler fault).sees⟩

theorem Encloses.seen (h : bucket.Encloses path) (place : Place) (hplace : path.Along place) :
    bucket.place <+: place ∨ bucket.base.Along place ∨ looksAt place :=
  (h.way place hplace).imp_right .inl

theorem Encloses.keepsInside_write (h : bucket.Encloses path) (bytes : List UInt8) :
    KeepsInside bucket looksAt (Call.write path bytes) := by
  refine ⟨fun place hplace => Call.keepsTo_write fun hreach => ?_,
    (Call.seesOnly_write path bytes).mono h.seen⟩
  exact absurd (hreach ▸ h.last) hplace

theorem Encloses.keepsInside_writeText (h : bucket.Encloses path) (text : String) :
    KeepsInside bucket looksAt (Call.writeText path text) := by
  unfold Call.writeText
  split
  · exact h.keepsInside_write _
  · exact (h.keepsInside_write _).bind fun _ => keepsInside_throw _

/-- Directories are made on the way to an enclosed key. -/
theorem keepsInside_prepare_bind {key : String} (h : bucket.Encloses (bucket.path key))
    {next : Path → Call α} (hnext : KeepsInside bucket looksAt (next (bucket.path key))) :
    KeepsInside bucket looksAt (bucket.prepare key >>= next) := by
  refine ⟨fun place hplace => keepsTo_prepare_bind (fun hpassed => ?_) (hnext.changes place hplace),
    ?_⟩
  · exact .inr ⟨(h.way place (.inl hpassed)).resolve_left hplace, rfl, rfl⟩
  · rw [prepare_bind]
    refine Call.seesOnly_bind ?_ fun _ => hnext.sees
    exact (Call.seesOnly_makeDirectories _).mono fun place hplace => h.seen place hplace.of_parent

end

section

variable {bucket : Bucket} {looksAt : Place → Prop} {key : String}
  (h : bucket.Encloses (bucket.path key))

include h

theorem Encloses.keepsInside_writeKey (text : String) :
    KeepsInside bucket looksAt (bucket.writeText key text) :=
  keepsInside_prepare_bind h (h.keepsInside_writeText text)

theorem Encloses.keepsInside_readKey : KeepsInside bucket looksAt (bucket.readText key) :=
  keepsInside_prepare_bind h
    (keepsInside_of_looks (Call.looks_readText _) (Call.seesOnly_readText _) h.seen)

theorem Encloses.keepsInside_downloadUrl : KeepsInside bucket looksAt (bucket.downloadUrl key) := by
  refine keepsInside_prepare_bind h ?_
  dsimp only
  split
  · exact (keepsInside_throw _).bind fun _ => keepsInside_pure _
  · exact keepsInside_pure _

/-- The file that is uploaded may be anywhere; it is looked at, and copied. -/
theorem Encloses.keepsInside_upload {source : Path} (hsource : Path.IsPlainName source.name) :
    KeepsInside bucket source.Along (bucket.upload source key) := by
  refine keepsInside_prepare_bind h ?_
  refine KeepsInside.bind ?_ fun isDirectory => ?_
  · refine KeepsInside.tryCatch ?_ fun _ => keepsInside_pure _
    exact keepsInside_of_looks (Call.looks_isDirectory _) (Call.seesOnly_isDirectory _) h.seen
  · have hcopy : ∀ target, bucket.Encloses target → KeepsInside bucket source.Along (do
        if Call.hasNull target then throw Call.nullFault
        let bytes ← Call.read source
        Call.write target bytes) := by
      intro target htarget
      have hrest : KeepsInside bucket source.Along (Call.read source >>= Call.write target) := by
        refine KeepsInside.bind ?_ fun bytes => htarget.keepsInside_write bytes
        exact keepsInside_of_looks (Call.looks_read source) (Call.seesOnly_read source)
          fun _ hplace => .inr (.inr hplace)
      dsimp only
      split
      · exact (keepsInside_throw _).bind fun _ => hrest
      · exact hrest
    cases isDirectory with
    | true => exact hcopy _ (h.child hsource)
    | false => exact hcopy _ h

end

end Bucket

end Montage.Storage
