/-
  Montage.Proofs.File.Places

  Where paths lead, and what calls do there.  The names of a path lead to the same place
  whatever the files are, if they lead anywhere: every place on the way has to be a directory.
  A call changes nothing but what is on the way of its path and where the path leads.
-/
import Mathlib.Data.List.Basic
import Mathlib.Order.RelClasses
import Montage.Proofs.File.Faults

namespace Montage.File

/-! ## Ways -/

namespace Place

/-- The place next to `here` under a name. -/
def advance (here : Place) (name : String) : Place :=
  if name = ".." then here.dropLast else here ++ [name]

/-- The place that names lead to from `here`. -/
def reach (here : Place) (names : List String) : Place :=
  names.foldl advance here

/-- The places that one passes along names from `here` on; the last one is not among them. -/
def passed (here : Place) : List String → List Place
  | [] => []
  | name :: rest => here :: passed (advance here name) rest

theorem reach_append (here : Place) (names more : List String) :
    reach here (names ++ more) = reach (reach here names) more :=
  List.foldl_append

theorem reach_concat (here : Place) (names : List String) {name : String} (h : name ≠ "..") :
    reach here (names ++ [name]) = reach here names ++ [name] := by
  rw [reach_append]
  exact if_neg h

theorem passed_append (here : Place) (names more : List String) :
    passed here (names ++ more) = passed here names ++ passed (reach here names) more := by
  induction names generalizing here with
  | nil => rfl
  | cons first rest ih => exact congrArg (here :: ·) (ih (advance here first))

theorem passed_concat (here : Place) (names : List String) (name : String) :
    passed here (names ++ [name]) = passed here names ++ [reach here names] :=
  passed_append here names [name]

/-- Names without two dots lead further down. -/
theorem reach_of_no_up {names : List String} (h : ".." ∉ names) (here : Place) :
    reach here names = here ++ names := by
  induction names generalizing here with
  | nil => exact (List.append_nil here).symm
  | cons name rest ih =>
      rw [List.mem_cons, not_or] at h
      show reach (advance here name) rest = here ++ name :: rest
      rw [ih h.2, advance, if_neg (Ne.symm h.1), List.append_assoc]
      rfl

theorem prefix_of_mem_passed {names : List String} (h : ".." ∉ names) {here place : Place}
    (hplace : place ∈ passed here names) : place <+: here ++ names := by
  induction names generalizing here with
  | nil => cases hplace
  | cons name rest ih =>
      rw [List.mem_cons, not_or] at h
      rcases List.mem_cons.mp hplace with rfl | hrest
      · exact List.prefix_append place (name :: rest)
      · rw [advance, if_neg (Ne.symm h.1)] at hrest
        have hprefix := ih h.2 hrest
        rwa [List.append_assoc] at hprefix

end Place

namespace Tree

/-- Whether the system takes all these names. -/
def Takes (names : List String) : Prop :=
  ∀ name ∈ names, name ≠ ".." → nameTooLong name = false

variable {tree : Tree} {here place : Place} {names : List String}

theorem follow_cons (h : tree.isDirectoryAt here = true) {name : String}
    (hname : name ≠ ".." → nameTooLong name = false ∧ tree.entryAt (here ++ [name]) ≠ none)
    (rest : List String) : tree.follow here (name :: rest) =
      tree.follow (Place.advance here name) rest := by
  rw [follow, h, Place.advance]
  by_cases hup : name = ".."
  · simp [hup]
  · obtain ⟨hshort, hentry⟩ := hname hup
    cases hfound : tree.entryAt (here ++ [name]) with
    | none => exact absurd hfound hentry
    | some entry => simp [hup, hshort]

/-- A way that can be followed leads through directories. -/
theorem way_of_follow (h : tree.follow here names = .ok place) :
    place = Place.reach here names ∧ (∀ passed ∈ Place.passed here names,
      tree.isDirectoryAt passed = true) ∧ Takes names := by
  induction names generalizing here with
  | nil =>
      cases h
      exact ⟨rfl, nofun, nofun⟩
  | cons name rest ih =>
      have hdirectory : tree.isDirectoryAt here = true := by
        cases hthere : tree.isDirectoryAt here with
        | true => rfl
        | false => simp [follow, hthere] at h
      have hname : name ≠ ".." →
          nameTooLong name = false ∧ tree.entryAt (here ++ [name]) ≠ none := by
        intro hup
        cases hlong : nameTooLong name with
        | true => simp [follow, hdirectory, hup, hlong] at h
        | false =>
            refine ⟨rfl, fun hnone => ?_⟩
            simp [follow, hdirectory, hup, hlong, hnone] at h
      rw [follow_cons hdirectory hname] at h
      obtain ⟨rfl, hpassed, htakes⟩ := ih h
      refine ⟨rfl, ?_, ?_⟩
      · intro passed hmem
        rcases List.mem_cons.mp hmem with rfl | hrest
        · exact hdirectory
        · exact hpassed passed hrest
      · intro other hmem
        rcases List.mem_cons.mp hmem with rfl | hrest
        · exact fun hup => (hname hup).1
        · exact htakes other hrest

/-- A way through directories can be followed. -/
theorem follow_of_way (hpassed : ∀ passed ∈ Place.passed here names,
      tree.isDirectoryAt passed = true)
    (hlast : tree.isDirectoryAt (Place.reach here names) = true) (htakes : Takes names) :
    tree.follow here names = .ok (Place.reach here names) := by
  induction names generalizing here with
  | nil => rfl
  | cons name rest ih =>
      obtain ⟨hdirectory, hrest⟩ := List.forall_mem_cons.mp hpassed
      obtain ⟨hname, htakesRest⟩ := List.forall_mem_cons.mp htakes
      -- the next place is passed too, or it is the last one
      have hnext : tree.isDirectoryAt (Place.advance here name) = true := by
        cases rest with
        | nil => exact hlast
        | cons => exact hrest _ List.mem_cons_self
      rw [follow_cons hdirectory fun hup => ⟨hname hup, fun hnone => ?_⟩]
      · exact ih hrest hlast htakesRest
      · rw [isDirectoryAt, Place.advance, if_neg hup, hnone] at hnext
        cases hnext

/-- The last name of a path need not exist. -/
theorem target_concat {init : List String} {name : String} :
    tree.target (init ++ [name]) = .ok place ↔
      ∃ here, tree.follow [] init = .ok here ∧ tree.isDirectoryAt here = true ∧
        (name ≠ ".." → nameTooLong name = false) ∧ place = Place.advance here name := by
  simp only [target, List.getLast?_concat, List.dropLast_concat]
  cases tree.follow [] init with
  | error cause => simp
  | ok here =>
      cases hthere : tree.isDirectoryAt here with
      | false => simp [hthere]
      | true =>
          by_cases hup : name = ".."
          · simp [hthere, hup, Place.advance]
            exact eq_comm
          · cases hlong : nameTooLong name with
            | true => simp [hthere, hup]
            | false =>
                simp [hthere, hup, Place.advance]
                exact eq_comm

/-- A path leads to the place that its names lead to, through directories. -/
theorem target_eq_ok_iff : tree.target names = .ok place ↔
    place = Place.reach [] names ∧ (∀ passed ∈ Place.passed [] names,
      tree.isDirectoryAt passed = true) ∧ Takes names := by
  rcases List.eq_nil_or_concat names with rfl | ⟨init, name, rfl⟩
  · constructor
    · intro h
      cases h
      exact ⟨rfl, nofun, nofun⟩
    · rintro ⟨rfl, -, -⟩
      rfl
  · have htakes : Takes (init ++ [name]) ↔
        Takes init ∧ (name ≠ ".." → nameTooLong name = false) := by
      simp only [Takes, List.mem_append, List.mem_singleton, or_imp, forall_and, forall_eq]
    have hpassed : (∀ passed ∈ Place.passed [] (init ++ [name]),
        tree.isDirectoryAt passed = true) ↔
        (∀ passed ∈ Place.passed [] init, tree.isDirectoryAt passed = true) ∧
          tree.isDirectoryAt (Place.reach [] init) = true := by
      rw [Place.passed_concat]
      simp only [List.mem_append, List.mem_singleton, or_imp, forall_and, forall_eq]
    rw [List.concat_eq_append, target_concat, htakes, hpassed, Place.reach_append]
    constructor
    · rintro ⟨here, hfollow, hthere, hname, rfl⟩
      obtain ⟨rfl, hway, hinit⟩ := way_of_follow hfollow
      exact ⟨rfl, ⟨hway, hthere⟩, hinit, hname⟩
    · rintro ⟨rfl, ⟨hway, hthere⟩, hinit, hname⟩
      exact ⟨_, follow_of_way hway hthere hinit, hthere, hname, rfl⟩

/-- Names that the system takes are not too long, whatever the files are. -/
theorem follow_ne_nameTooLong (h : Takes names) : tree.follow here names ≠ .error .nameTooLong := by
  induction names generalizing here with
  | nil => nofun
  | cons name rest ih =>
      obtain ⟨hname, hrest⟩ := List.forall_mem_cons.mp h
      unfold follow
      split
      · nofun
      · split
        · exact ih hrest
        next hup =>
          rw [hname hup, if_neg Bool.false_ne_true]
          split
          · nofun
          · exact ih hrest

theorem target_ne_nameTooLong (h : Takes names) : tree.target names ≠ .error .nameTooLong := by
  rcases List.eq_nil_or_concat names with rfl | ⟨init, name, rfl⟩
  · nofun
  · rw [List.concat_eq_append] at h ⊢
    have hinit : Takes init := fun other hother => h other (List.mem_append_left _ hother)
    have hname := h name (List.mem_append_right _ List.mem_cons_self)
    simp only [target, List.getLast?_concat, List.dropLast_concat]
    split
    next hfollow => exact fun heq => follow_ne_nameTooLong hinit (hfollow.trans heq)
    next =>
      split
      · nofun
      · split
        · nofun
        next hup =>
          rw [hname hup]
          nofun

end Tree

/-! ## Calls -/

/-- Whether something is still there that was there before. -/
def Entry.Stays (entry : Entry) (before after : Option Entry) : Prop :=
  before = some entry → after = some entry

instance (entry : Entry) : IsPreorder (Option Entry) entry.Stays where
  refl _ h := h
  trans _ _ _ hfirst hsecond h := hsecond (hfirst h)

namespace Call

variable {α β : Type} {tree after : Tree} {path : Path} {place : Place} {entry : Entry}
  {bytes : List UInt8} {change : Option Entry → Option Entry → Prop}

/-- A call that leaves a tree as it is, whatever it gives. -/
def Looks (call : Call α) : Prop :=
  ∀ tree, (call.run.run tree).2 = tree

/-- Whether what a call does at a place is a change of this kind. -/
def KeepsTo (change : Option Entry → Option Entry → Prop) (place : Place) (call : Call α) :
    Prop :=
  ∀ tree, change (tree.entryAt place) ((call.run.run tree).2.entryAt place)

theorem looks_pure (a : α) : Looks (pure a : Call α) :=
  fun _ => rfl

theorem looks_throw (fault : Fault) : Looks (throw fault : Call α) :=
  fun _ => rfl

theorem looks_get : Looks (get : Call Tree) :=
  fun _ => rfl

theorem run_bind (call : Call α) (next : α → Call β) (tree : Tree) :
    (call >>= next).run.run tree =
      match call.run.run tree with
      | (.ok a, after) => (next a).run.run after
      | (.error fault, after) => (.error fault, after) := by
  rw [ExceptT.run_bind, StateT.run_bind]
  rcases call.run.run tree with ⟨result, after⟩
  cases result <;> rfl

theorem run_get_bind (next : Tree → Call α) (tree : Tree) :
    (get >>= next).run.run tree = (next tree).run.run tree :=
  rfl

theorem looks_bind {call : Call α} {next : α → Call β} (hcall : Looks call)
    (hnext : ∀ a, Looks (next a)) : Looks (call >>= next) := by
  intro tree
  have hfirst := hcall tree
  rw [run_bind]
  rcases hrun : call.run.run tree with ⟨result, after⟩
  rw [hrun] at hfirst
  cases result with
  | error fault => exact hfirst
  | ok a => exact (hnext a after).trans hfirst

/-! ## Kinds of change -/

section

variable [IsPreorder (Option Entry) change]

theorem Looks.keepsTo {call : Call α} (h : Looks call) : KeepsTo change place call := by
  intro tree
  rw [h tree]
  exact refl_of change _

/-- The root is a directory, whatever is done. -/
theorem keepsTo_root (call : Call α) : KeepsTo change [] call :=
  fun _ => refl_of change _

theorem keepsTo_bind {call : Call α} {next : α → Call β} (hcall : KeepsTo change place call)
    (hnext : ∀ a, KeepsTo change place (next a)) : KeepsTo change place (call >>= next) := by
  intro tree
  have hfirst := hcall tree
  rw [run_bind]
  rcases hrun : call.run.run tree with ⟨result, after⟩
  rw [hrun] at hfirst
  cases result with
  | error fault => exact hfirst
  | ok a => exact trans_of change hfirst (hnext a after)

theorem keepsTo_tryCatch {call : Call α} {handler : Fault → Call α}
    (hcall : KeepsTo change place call) (hhandler : ∀ fault, KeepsTo change place (handler fault)) :
    KeepsTo change place (tryCatch call handler) := by
  intro tree
  have hfirst := hcall tree
  rw [run_tryCatch]
  rcases hrun : call.run.run tree with ⟨result, after⟩
  rw [hrun] at hfirst
  cases result with
  | error fault => exact trans_of change hfirst (hhandler fault after)
  | ok a => exact hfirst

end

/-! ## Looking -/

/-- A path is located if it can be handed to the system and leads to a place. -/
structure Locates (path : Path) (tree : Tree) : Prop where
  clean : hasNull path = false
  short : path.text.utf8ByteSize ≤ Tree.pathLimit
  way : ∀ passed ∈ Place.passed [] path.names, tree.isDirectoryAt passed = true
  takes : Tree.Takes path.names

/-- A path that is located is located at the place that its names lead to. -/
theorem run_locate (path : Path) (tree : Tree) :
    (Locates path tree ∧
      (locate path).run.run tree = (.ok (Place.reach [] path.names), tree)) ∨
    (¬ Locates path tree ∧ ∃ fault, (locate path).run.run tree = (.error fault, tree)) := by
  unfold locate
  dsimp only
  cases hnull : hasNull path with
  | true =>
      refine .inr ⟨fun hlocates => ?_, nullFault, rfl⟩
      rw [hlocates.clean] at hnull
      cases hnull
  | false =>
      by_cases hlong : Tree.pathLimit < path.text.utf8ByteSize
      · refine .inr ⟨fun hlocates => absurd hlocates.short (Nat.not_le_of_gt hlong), ?_⟩
        simp only [Bool.false_eq_true, if_false, if_pos hlong]
        exact ⟨_, rfl⟩
      · simp only [Bool.false_eq_true, if_false, if_neg hlong]
        rw [run_get_bind]
        cases htarget : tree.target path.names with
        | ok place =>
            obtain ⟨rfl, hway, htakes⟩ := Tree.target_eq_ok_iff.mp htarget
            exact .inl ⟨⟨hnull, Nat.le_of_not_gt hlong, hway, htakes⟩, rfl⟩
        | error cause =>
            refine .inr ⟨fun hlocates => ?_, .system cause path.text, rfl⟩
            have hok := Tree.target_eq_ok_iff.mpr ⟨rfl, hlocates.way, hlocates.takes⟩
            rw [htarget] at hok
            cases hok

theorem looks_locate (path : Path) : Looks (locate path) := by
  intro tree
  rcases run_locate path tree with ⟨-, hrun⟩ | ⟨-, fault, hrun⟩
  · rw [hrun]
  · rw [hrun]

theorem looks_entryOf (path : Path) : Looks (entryOf path) := by
  unfold entryOf
  split
  · exact looks_pure _
  · refine looks_bind looks_get fun tree => ?_
    split
    · exact looks_pure _
    · exact looks_throw _
    · exact looks_pure _

theorem looks_isDirectory (path : Path) : Looks (isDirectory path) :=
  looks_bind (looks_entryOf path) fun _ => looks_pure _

theorem looks_acceptDirectory (path : Path) (fault : Fault) :
    Looks (acceptDirectory path fault) := by
  refine looks_bind (looks_isDirectory path) fun found => ?_
  split
  · exact looks_throw fault
  · exact looks_pure _

theorem looks_read (path : Path) : Looks (read path) := by
  refine looks_bind (looks_locate path) fun place => looks_bind looks_get fun tree => ?_
  split
  · exact looks_pure _
  · exact looks_throw _
  · exact looks_throw _

theorem looks_readText (path : Path) : Looks (readText path) := by
  refine looks_bind (looks_read path) fun bytes => ?_
  split
  · exact looks_pure _
  · exact looks_throw _

/-! ## Changing -/

theorem run_modify (change : Tree → Tree) (tree : Tree) :
    (modify change : Call Unit).run.run tree = (.ok (), change tree) :=
  rfl

/-- Something else is put at a place where nothing was, or something else. -/
theorem entryAt_put_of_entry {other : Place} {next : Entry}
    (hentry : tree.entryAt place = some entry) (h : tree.entryAt other ≠ some entry) :
    (tree.put other next).entryAt place = some entry := by
  have hne : other ≠ place := fun heq => h (heq ▸ hentry)
  rw [Tree.entryAt_put_ne hne, hentry]

/-- What a path leads to, if it leads anywhere. -/
theorem entryOf_eq_some (h : ((entryOf path).run.run tree).1 = .ok (some entry)) :
    tree.target path.names = .ok (Place.reach [] path.names) ∧
      tree.entryAt (Place.reach [] path.names) = some entry := by
  unfold entryOf at h
  split at h
  · cases h
  · rw [run_get_bind] at h
    cases htarget : tree.target path.names with
    | ok place =>
        obtain ⟨rfl, -, -⟩ := Tree.target_eq_ok_iff.mp htarget
        rw [htarget] at h
        exact ⟨rfl, Except.ok.inj h⟩
    | error cause =>
        rw [htarget] at h
        cases cause <;> cases h

/-- A removal finds nothing to remove, takes a directory with all below it, or fails and does
nothing. -/
theorem run_remove (path : Path) (tree : Tree) :
    (((entryOf path).run.run tree).1 = .ok none ∧ (remove path).run.run tree = (.ok (), tree)) ∨
    (tree.target path.names = .ok (Place.reach [] path.names) ∧
      (remove path).run.run tree = (.ok (), tree.removeBelow (Place.reach [] path.names))) ∨
    ∃ fault, (remove path).run.run tree = (.error fault, tree) := by
  have hlooks := looks_entryOf path tree
  unfold remove
  rw [run_bind]
  rcases hrun : (entryOf path).run.run tree with ⟨result, after⟩
  obtain rfl : after = tree := by rw [hrun] at hlooks; exact hlooks
  cases result with
  | error fault => exact .inr (.inr ⟨fault, rfl⟩)
  | ok found =>
      cases found with
      | none => exact .inl ⟨rfl, rfl⟩
      | some entry =>
          cases entry with
          | file bytes => exact .inr (.inr ⟨_, rfl⟩)
          | directory =>
              obtain ⟨htarget, -⟩ := entryOf_eq_some (congrArg Prod.fst hrun)
              refine .inr (.inl ⟨htarget, ?_⟩)
              dsimp only
              rw [run_get_bind, htarget]
              rfl

section

variable [IsPreorder (Option Entry) change]

theorem keepsTo_put {other : Place} {entry : Entry} (hroot : other ≠ [])
    (h : other = place → change (tree.entryAt place) (some entry)) :
    change (tree.entryAt place) ((tree.put other entry).entryAt place) := by
  by_cases hplace : other = place
  · subst hplace
    rw [Tree.entryAt_put_self hroot]
    exact h rfl
  · rw [Tree.entryAt_put_ne hplace]
    exact refl_of change _

/-- A directory is made only where nothing is. -/
theorem keepsTo_makeOne (h : Place.reach [] path.names = place → change none (some .directory)) :
    KeepsTo change place (makeOne path) := by
  intro tree
  unfold makeOne
  rw [run_bind]
  rcases run_locate path tree with ⟨-, hrun⟩ | ⟨-, fault, hrun⟩
  · rw [hrun]
    dsimp only
    rw [run_get_bind]
    cases hthere : tree.entryAt (Place.reach [] path.names) with
    | some other => exact refl_of change _
    | none =>
        have hroot : Place.reach [] path.names ≠ [] := fun hroot => by
          rw [hroot] at hthere
          cases hthere
        refine keepsTo_put hroot fun hplace => ?_
        rw [← hplace, hthere]
        exact h hplace
  · rw [hrun]
    exact refl_of change _

/-- Directories are made where a path leads and on the way there. -/
theorem keepsTo_makeAll (depth : Nat)
    (h : place ∈ Place.passed [] path.names ∨ Place.reach [] path.names = place →
      change none (some .directory)) : KeepsTo change place (makeAll depth path) := by
  have haccept : ∀ path fault, KeepsTo change place (acceptDirectory path fault) :=
    fun path fault => (looks_acceptDirectory path fault).keepsTo
  have hthrow : ∀ fault, KeepsTo change place (throw fault : Call Unit) := fun fault =>
    (looks_throw fault).keepsTo
  induction depth generalizing path with
  | zero => exact keepsTo_makeOne fun hlast => h (.inr hlast)
  | succ depth ih =>
      have hone : KeepsTo change place (makeOne path) := keepsTo_makeOne fun hlast => h (.inr hlast)
      refine keepsTo_tryCatch hone fun fault => ?_
      split
      · split
        · exact hthrow _
        next hnames =>
          refine keepsTo_bind (ih fun hparent => h (.inl ?_)) fun _ => ?_
          · obtain ⟨init, name, hinit⟩ := List.eq_nil_or_concat path.names |>.resolve_left
              (by simpa using hnames)
            rw [List.concat_eq_append] at hinit
            rw [Path.parent, hinit, List.dropLast_concat] at hparent
            rw [hinit, Place.passed_concat, List.mem_append, List.mem_singleton]
            exact hparent.imp_right Eq.symm
          · refine keepsTo_tryCatch hone fun again => ?_
            split
            · exact hthrow _
            · exact haccept path _
            · exact hthrow _
      · exact haccept path _
      · exact hthrow _

theorem keepsTo_makeDirectories
    (h : place ∈ Place.passed [] path.names ∨ Place.reach [] path.names = place →
      change none (some .directory)) : KeepsTo change place (makeDirectories path) :=
  keepsTo_makeAll path.names.length h

/-- A write goes to the place of its path, and not over a directory. -/
theorem keepsTo_write (h : Place.reach [] path.names = place →
      ∀ before, before ≠ some .directory → change before (some (.file bytes))) :
    KeepsTo change place (write path bytes) := by
  intro tree
  unfold write
  rw [run_bind]
  rcases run_locate path tree with ⟨-, hrun⟩ | ⟨-, fault, hrun⟩
  · rw [hrun]
    dsimp only
    rw [run_get_bind]
    split
    next hdirectory => exact refl_of change _
    next hother =>
      have hroot : Place.reach [] path.names ≠ [] := fun hroot => by
        rw [hroot] at hother
        exact hother rfl
      refine keepsTo_put hroot fun hplace => h hplace _ ?_
      rw [← hplace]
      exact hother
  · rw [hrun]
    exact refl_of change _

/-- A removal takes what is at the place of its path and below. -/
theorem keepsTo_remove (h : Place.reach [] path.names <+: place → ∀ before, change before none) :
    KeepsTo change place (remove path) := by
  intro tree
  rcases run_remove path tree with ⟨-, hrun⟩ | ⟨-, hrun⟩ | ⟨fault, hrun⟩
  · rw [hrun]
    exact refl_of change _
  · rw [hrun, Tree.entryAt_removeBelow]
    by_cases hroot : place = []
    · rw [if_pos hroot]
      subst hroot
      exact refl_of change _
    · rw [if_neg hroot]
      split
      next hbelow => exact h (List.isPrefixOf_iff_prefix.mp hbelow) _
      next => exact refl_of change _
  · rw [hrun]
    exact refl_of change _

end

/-- After a removal that succeeds, the path leads to nothing. -/
theorem exists?_of_remove (hroot : Place.reach [] path.names ≠ [])
    (h : (remove path).run.run tree = (.ok (), after)) :
    ((exists? path).run.run after).1 = .ok false := by
  have hnone : ((entryOf path).run.run after).1 = .ok none →
      ((exists? path).run.run after).1 = .ok false := by
    intro hentry
    rw [exists?, run_bind]
    rcases hrun : (entryOf path).run.run after with ⟨result, final⟩
    rw [hrun] at hentry
    dsimp only at hentry
    rw [hentry]
    rfl
  rcases run_remove path tree with ⟨hentry, hrun⟩ | ⟨htarget, hrun⟩ | ⟨fault, hrun⟩
  · rw [hrun] at h
    obtain rfl := congrArg Prod.snd h
    exact hnone hentry
  · rw [hrun] at h
    obtain rfl := congrArg Prod.snd h
    obtain ⟨-, -, htakes⟩ := Tree.target_eq_ok_iff.mp htarget
    refine hnone ?_
    unfold entryOf
    split
    · rfl
    · rw [run_get_bind]
      split
      next place hplace =>
        obtain ⟨rfl, -, -⟩ := Tree.target_eq_ok_iff.mp hplace
        have hgone : (tree.removeBelow (Place.reach [] path.names)).entryAt
            (Place.reach [] path.names) = none := by
          rw [Tree.entryAt_removeBelow, if_neg hroot,
            if_pos (List.isPrefixOf_iff_prefix.mpr List.prefix_rfl)]
        rw [hgone]
        rfl
      next hlong => exact absurd hlong (Tree.target_ne_nameTooLong htakes)
      next => rfl
  · rw [hrun] at h
    cases h

/-! ## Files that stay -/

end Call

/-- Whether the file of a path can be read and has these bytes. -/
def Tree.Holds (path : Path) (bytes : List UInt8) (tree : Tree) : Prop :=
  ((Call.read path).run.run tree).1 = .ok bytes

namespace Tree

variable {tree after : Tree} {path : Path} {bytes : List UInt8}

theorem holds_iff : tree.Holds path bytes ↔
    Call.Locates path tree ∧ tree.entryAt (Place.reach [] path.names) = some (.file bytes) := by
  unfold Holds Call.read
  rw [Call.run_bind]
  rcases Call.run_locate path tree with ⟨hlocates, hrun⟩ | ⟨hnot, fault, hrun⟩
  · rw [hrun]
    dsimp only
    rw [Call.run_get_bind]
    split
    next found hfound =>
      rw [hfound]
      constructor
      · intro h
        cases h
        exact ⟨hlocates, rfl⟩
      · rintro ⟨-, h⟩
        cases h
        rfl
    next hfound =>
      rw [hfound]
      exact ⟨nofun, nofun⟩
    next hfound =>
      rw [hfound]
      exact ⟨nofun, nofun⟩
  · rw [hrun]
    constructor
    · nofun
    · exact fun h => absurd h.1 hnot

/-- A file stays readable as long as it stays and the directories on the way to it do. -/
theorem Holds.keep (h : tree.Holds path bytes)
    (hway : ∀ passed ∈ Place.passed [] path.names, tree.entryAt passed = some .directory →
      after.entryAt passed = some .directory)
    (hfile : tree.entryAt (Place.reach [] path.names) = some (.file bytes) →
      after.entryAt (Place.reach [] path.names) = some (.file bytes)) :
    after.Holds path bytes := by
  obtain ⟨hlocates, hentry⟩ := holds_iff.mp h
  refine holds_iff.mpr ⟨⟨hlocates.clean, hlocates.short, ?_, hlocates.takes⟩, hfile hentry⟩
  intro passed hpassed
  have hbefore := hlocates.way passed hpassed
  rw [isDirectoryAt, decide_eq_true_eq] at hbefore ⊢
  exact hway passed hpassed hbefore

/-- A file that was written can be read. -/
theorem holds_of_write (h : (Call.write path bytes).run.run tree = (.ok (), after)) :
    after.Holds path bytes := by
  unfold Call.write at h
  rw [Call.run_bind] at h
  rcases Call.run_locate path tree with ⟨hlocates, hrun⟩ | ⟨-, fault, hrun⟩
  · rw [hrun] at h
    dsimp only at h
    rw [Call.run_get_bind] at h
    split at h
    next hdirectory => cases h
    next hother =>
      obtain rfl : tree.put (Place.reach [] path.names) (.file bytes) = after :=
        congrArg Prod.snd h
      have hroot : Place.reach [] path.names ≠ [] := by
        intro hroot
        rw [hroot] at hother
        exact hother rfl
      refine holds_iff.mpr ⟨⟨hlocates.clean, hlocates.short, ?_, hlocates.takes⟩, ?_⟩
      -- a place that one passes is a directory, and the file is not put there
      · intro passed hpassed
        have hbefore := hlocates.way passed hpassed
        rw [isDirectoryAt, decide_eq_true_eq] at hbefore ⊢
        exact Call.entryAt_put_of_entry hbefore hother
      · exact entryAt_put_self hroot _ tree
  · rw [hrun] at h
    cases h

end Tree

end Montage.File
