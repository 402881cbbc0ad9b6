/-
  Montage.Proofs.File.Sight

  What calls see of a tree.  A call that is given a path looks at the places on the way of the
  path and at the place where it leads.  What is anywhere else makes no difference to it.
-/
import Montage.Proofs.File.Places

namespace Montage.File

/-! ## Places of a path -/

namespace Place

/-- Whether a place is on the way from `here` along names, or where they lead. -/
def IsAlong (here : Place) (names : List String) (place : Place) : Prop :=
  place ∈ passed here names ∨ place = reach here names

theorem isAlong_start (here : Place) (names : List String) : IsAlong here names here := by
  cases names with
  | nil => exact .inr rfl
  | cons name rest => exact .inl List.mem_cons_self

theorem IsAlong.cons {here place : Place} {name : String} {rest : List String}
    (h : IsAlong (advance here name) rest place) : IsAlong here (name :: rest) place :=
  h.imp (List.mem_cons_of_mem _) id

theorem isAlong_concat {here place : Place} {init : List String} {name : String} :
    place ∈ passed here (init ++ [name]) ↔ IsAlong here init place := by
  rw [passed_concat, List.mem_append, List.mem_singleton]
  rfl

end Place

/-- The places that a path leads along, the last one included. -/
def Path.Along (path : Path) (place : Place) : Prop :=
  Place.IsAlong [] path.names place

/-- The places along the directory above a path are along the path. -/
theorem Path.Along.of_parent {path : Path} {place : Place} (h : path.parent.Along place) :
    path.Along place := by
  unfold Along parent at h
  unfold Along
  rcases List.eq_nil_or_concat path.names with hnil | ⟨init, name, hinit⟩
  · rwa [hnil] at h ⊢
  · rw [hinit, List.concat_eq_append] at h ⊢
    rw [List.dropLast_concat] at h
    exact .inl (Place.isAlong_concat.mpr h)

/-! ## Trees that agree -/

namespace Tree

variable {tree other : Tree} {here : Place} {names : List String}

/-- Whether two trees have the same at some places. -/
def AgreeOn (seen : Place → Prop) (tree other : Tree) : Prop :=
  ∀ place, seen place → tree.entryAt place = other.entryAt place

theorem isDirectoryAt_congr (h : tree.entryAt here = other.entryAt here) :
    tree.isDirectoryAt here = other.isDirectoryAt here := by
  rw [isDirectoryAt, isDirectoryAt, h]

theorem follow_congr (h : AgreeOn (Place.IsAlong here names) tree other) :
    tree.follow here names = other.follow here names := by
  induction names generalizing here with
  | nil => rfl
  | cons name rest ih =>
      -- one step asks whether this place is a directory, and whether there is something next
      have hhere := isDirectoryAt_congr (h here (Place.isAlong_start here (name :: rest)))
      have hrest : AgreeOn (Place.IsAlong (Place.advance here name) rest) tree other :=
        fun place hplace => h place hplace.cons
      have hnext := hrest _ (Place.isAlong_start _ _)
      unfold follow
      rw [hhere]
      unfold Place.advance at hrest hnext
      split
      · rfl
      · split
        next hup =>
          rw [if_pos hup] at hrest
          exact ih hrest
        next hup =>
          rw [if_neg hup] at hrest hnext
          rw [hnext]
          split
          · rfl
          · split
            · rfl
            · exact ih hrest

/-- To find out where a path leads, the place itself is not looked at. -/
theorem target_congr (h : AgreeOn (· ∈ Place.passed [] names) tree other) :
    tree.target names = other.target names := by
  rcases List.eq_nil_or_concat names with rfl | ⟨init, name, rfl⟩
  · rfl
  · rw [List.concat_eq_append] at h ⊢
    have hinit : AgreeOn (Place.IsAlong [] init) tree other :=
      fun place hplace => h place (Place.isAlong_concat.mpr hplace)
    simp only [target, List.getLast?_concat, List.dropLast_concat]
    rw [follow_congr hinit]
    cases hfollow : other.follow [] init with
    | error cause => rfl
    | ok place =>
        obtain ⟨rfl, -, -⟩ := way_of_follow hfollow
        dsimp only
        rw [isDirectoryAt_congr (hinit _ (.inr rfl))]

end Tree

/-! ## Calls -/

namespace Call

variable {α β : Type} {seen : Place → Prop} {path : Path}

/-- Whether a call sees no more of a tree than some places.  What is elsewhere does not change
    its result, and stays the same if it was the same. -/
def SeesOnly (seen : Place → Prop) (call : Call α) : Prop :=
  ∀ tree other, Tree.AgreeOn seen tree other →
    (call.run.run tree).1 = (call.run.run other).1 ∧
      ∀ place, tree.entryAt place = other.entryAt place →
        (call.run.run tree).2.entryAt place = (call.run.run other).2.entryAt place

theorem SeesOnly.mono {more : Place → Prop} {call : Call α} (h : SeesOnly seen call)
    (hmore : ∀ place, seen place → more place) : SeesOnly more call :=
  fun tree other hagree => h tree other fun place hplace => hagree place (hmore place hplace)

theorem Looks.seesOnly {call : Call α} (h : Looks call)
    (hresult : ∀ tree other, Tree.AgreeOn seen tree other →
      (call.run.run tree).1 = (call.run.run other).1) : SeesOnly seen call := by
  intro tree other hagree
  rw [h tree, h other]
  exact ⟨hresult tree other hagree, fun _ hsame => hsame⟩

theorem seesOnly_pure (a : α) : SeesOnly seen (pure a : Call α) :=
  (looks_pure a).seesOnly fun _ _ _ => rfl

theorem seesOnly_throw (fault : Fault) : SeesOnly seen (throw fault : Call α) :=
  (looks_throw fault).seesOnly fun _ _ _ => rfl

theorem seesOnly_bind {call : Call α} {next : α → Call β} (hcall : SeesOnly seen call)
    (hnext : ∀ a, SeesOnly seen (next a)) : SeesOnly seen (call >>= next) := by
  intro tree other hagree
  -- the trees still agree where the next call looks, and they are the same for the rest
  obtain ⟨hresult, hafter⟩ := hcall tree other hagree
  rw [run_bind, run_bind]
  rcases hrun : call.run.run tree with ⟨result, after⟩
  rcases hrunOther : call.run.run other with ⟨resultOther, afterOther⟩
  rw [hrun, hrunOther] at hresult hafter
  obtain rfl : result = resultOther := hresult
  cases result with
  | error fault => exact ⟨rfl, hafter⟩
  | ok a =>
      obtain ⟨hlast, hend⟩ := hnext a after afterOther fun place hplace =>
        hafter place (hagree place hplace)
      exact ⟨hlast, fun place hsame => hend place (hafter place hsame)⟩

theorem seesOnly_tryCatch {call : Call α} {handler : Fault → Call α}
    (hcall : SeesOnly seen call) (hhandler : ∀ fault, SeesOnly seen (handler fault)) :
    SeesOnly seen (tryCatch call handler) := by
  intro tree other hagree
  obtain ⟨hresult, hafter⟩ := hcall tree other hagree
  rw [run_tryCatch, run_tryCatch]
  rcases hrun : call.run.run tree with ⟨result, after⟩
  rcases hrunOther : call.run.run other with ⟨resultOther, afterOther⟩
  rw [hrun, hrunOther] at hresult hafter
  obtain rfl : result = resultOther := hresult
  cases result with
  | ok a => exact ⟨rfl, hafter⟩
  | error fault =>
      obtain ⟨hlast, hend⟩ := hhandler fault after afterOther fun place hplace =>
        hafter place (hagree place hplace)
      exact ⟨hlast, fun place hsame => hend place (hafter place hsame)⟩

theorem seesOnly_put {place : Place} (hroot : place ≠ []) (entry : Entry) :
    SeesOnly seen (modify (Tree.put place entry) : Call Unit) := by
  intro tree other _
  refine ⟨rfl, fun asked hsame => ?_⟩
  rw [run_modify, run_modify]
  by_cases hplace : place = asked
  · subst hplace
    rw [Tree.entryAt_put_self hroot, Tree.entryAt_put_self hroot]
  · rwa [Tree.entryAt_put_ne hplace, Tree.entryAt_put_ne hplace]

/-! ## Calls with a path -/

theorem seesOnly_locate (path : Path) : SeesOnly path.Along (locate path) := by
  refine (looks_locate path).seesOnly fun tree other hagree => ?_
  unfold locate
  dsimp only
  split
  · rfl
  · split
    · rfl
    · rw [run_get_bind, run_get_bind,
        Tree.target_congr fun place hplace => hagree place (.inl hplace)]
      cases other.target path.names <;> rfl

/-- A path that is located is located where its names lead. -/
theorem seesOnly_locate_bind {next : Place → Call α}
    (hnext : SeesOnly path.Along (next (Place.reach [] path.names))) :
    SeesOnly path.Along (locate path >>= next) := by
  intro tree other hagree
  have hsame := (seesOnly_locate path tree other hagree).1
  rw [run_bind, run_bind]
  rcases run_locate path tree with ⟨-, hrun⟩ | ⟨-, fault, hrun⟩
  · rcases run_locate path other with ⟨-, hrunOther⟩ | ⟨-, fault, hrunOther⟩
    · rw [hrun, hrunOther]
      exact hnext tree other hagree
    · rw [hrun, hrunOther] at hsame
      cases hsame
  · rcases run_locate path other with ⟨-, hrunOther⟩ | ⟨-, raised, hrunOther⟩
    · rw [hrun, hrunOther] at hsame
      cases hsame
    · rw [hrun, hrunOther] at hsame ⊢
      exact ⟨congrArg Except.error (Except.error.inj hsame), fun _ hentry => hentry⟩

theorem seesOnly_entryOf (path : Path) : SeesOnly path.Along (entryOf path) := by
  refine (looks_entryOf path).seesOnly fun tree other hagree => ?_
  unfold entryOf
  split
  · rfl
  · rw [run_get_bind, run_get_bind,
      Tree.target_congr fun place hplace => hagree place (.inl hplace)]
    cases htarget : other.target path.names with
    | error cause => cases cause <;> rfl
    | ok place =>
        obtain ⟨rfl, -, -⟩ := Tree.target_eq_ok_iff.mp htarget
        have hentry := hagree _ (.inr rfl)
        dsimp only
        rw [hentry]
        rfl

theorem seesOnly_isDirectory (path : Path) : SeesOnly path.Along (isDirectory path) :=
  seesOnly_bind (seesOnly_entryOf path) fun _ => seesOnly_pure _

theorem seesOnly_acceptDirectory (path : Path) (fault : Fault) :
    SeesOnly path.Along (acceptDirectory path fault) := by
  refine seesOnly_bind (seesOnly_isDirectory path) fun found => ?_
  split
  · exact seesOnly_throw fault
  · exact seesOnly_pure _

theorem seesOnly_makeOne (path : Path) : SeesOnly path.Along (makeOne path) := by
  refine seesOnly_locate_bind fun tree other hagree => ?_
  have hentry := hagree _ (.inr rfl)
  rw [run_get_bind, run_get_bind, hentry]
  cases hthere : other.entryAt (Place.reach [] path.names) with
  | some entry => exact seesOnly_throw _ tree other hagree
  | none =>
      -- there is always something at the root
      have hroot : Place.reach [] path.names ≠ [] := fun hroot => by
        rw [hroot] at hthere
        cases hthere
      exact seesOnly_put hroot _ tree other hagree

theorem seesOnly_makeAll (depth : Nat) (path : Path) :
    SeesOnly path.Along (makeAll depth path) := by
  induction depth generalizing path with
  | zero => exact seesOnly_makeOne path
  | succ depth ih =>
      refine seesOnly_tryCatch (seesOnly_makeOne path) fun fault => ?_
      split
      · split
        · exact seesOnly_throw _
        · refine seesOnly_bind ((ih path.parent).mono fun _ => .of_parent) fun _ => ?_
          refine seesOnly_tryCatch (seesOnly_makeOne path) fun again => ?_
          split
          · exact seesOnly_throw _
          · exact seesOnly_acceptDirectory path _
          · exact seesOnly_throw _
      · exact seesOnly_acceptDirectory path _
      · exact seesOnly_throw _

theorem seesOnly_makeDirectories (path : Path) : SeesOnly path.Along (makeDirectories path) :=
  seesOnly_makeAll path.names.length path

theorem seesOnly_write (path : Path) (bytes : List UInt8) :
    SeesOnly path.Along (write path bytes) := by
  refine seesOnly_locate_bind fun tree other hagree => ?_
  have hentry := hagree _ (.inr rfl)
  rw [run_get_bind, run_get_bind, hentry]
  split
  · exact seesOnly_throw _ tree other hagree
  next hthere =>
    have hroot : Place.reach [] path.names ≠ [] := fun hroot => by
      rw [hroot] at hthere
      exact hthere rfl
    exact seesOnly_put hroot _ tree other hagree

theorem seesOnly_read (path : Path) : SeesOnly path.Along (read path) := by
  refine seesOnly_locate_bind fun tree other hagree => ?_
  have hentry := hagree _ (.inr rfl)
  rw [run_get_bind, run_get_bind, hentry]
  split
  · exact seesOnly_pure _ tree other hagree
  · exact seesOnly_throw _ tree other hagree
  · exact seesOnly_throw _ tree other hagree

theorem seesOnly_readText (path : Path) : SeesOnly path.Along (readText path) := by
  refine seesOnly_bind (seesOnly_read path) fun bytes => ?_
  split
  · exact seesOnly_pure _
  · exact seesOnly_throw _

end Call

end Montage.File
