/-
  Montage.Proofs.File.Faults

  What calls on the files can raise.  Making directories and writing files fail as the
  system does or because a path is malformed, and never with the failure of a job.
-/
import Montage.File.Tree
import Montage.Proofs.Fault

namespace Montage.File.Call

variable {α β : Type}

/-! ## Calls and their faults -/

/-- A call all of whose faults are of one sort. -/
def Raises (sort : Fault → Prop) (call : Call α) : Prop :=
  ∀ tree fault, (call.run.run tree).1 = .error fault → sort fault

theorem raises_pure (sort : Fault → Prop) (a : α) : Raises sort (pure a : Call α) := by
  intro tree fault h
  cases h

theorem raises_throw {sort : Fault → Prop} {fault : Fault} (h : sort fault) :
    Raises sort (throw fault : Call α) := by
  intro tree other hthrown
  cases hthrown
  exact h

theorem raises_get (sort : Fault → Prop) : Raises sort (get : Call Tree) := by
  intro tree fault h
  cases h

theorem raises_modify (sort : Fault → Prop) (change : Tree → Tree) :
    Raises sort (modify change : Call Unit) := by
  intro tree fault h
  cases h

theorem raises_bind {sort : Fault → Prop} {call : Call α} {next : α → Call β}
    (hcall : Raises sort call) (hnext : ∀ a, Raises sort (next a)) :
    Raises sort (call >>= next) := by
  intro tree fault h
  rcases hrun : call.run.run tree with ⟨result, after⟩
  rw [ExceptT.run_bind, StateT.run_bind, hrun] at h
  cases result with
  | error raised =>
      have hraised := hcall tree raised (by rw [hrun])
      cases h
      exact hraised
  | ok a => exact hnext a after fault h

theorem run_tryCatch (call : Call α) (handler : Fault → Call α) (tree : Tree) :
    (tryCatch call handler : Call α).run.run tree =
      match call.run.run tree with
      | (.ok a, after) => (.ok a, after)
      | (.error fault, after) => (handler fault).run.run after := by
  unfold ExceptT.run StateT.run
  simp only [tryCatch, tryCatchThe, MonadExceptOf.tryCatch, ExceptT.tryCatch, ExceptT.mk, bind,
    StateT.bind]
  rcases call tree with ⟨result, after⟩
  cases result <;> rfl

/-- What would come after a fault does not matter. -/
theorem raises_throw_bind {sort : Fault → Prop} {fault : Fault} (h : sort fault)
    (next : α → Call β) : Raises sort ((throw fault : Call α) >>= next) := by
  intro tree other hthrown
  cases hthrown
  exact h

theorem raises_tryCatch {sort other : Fault → Prop} {call : Call α} {handler : Fault → Call α}
    (hcall : Raises other call) (hhandler : ∀ fault, other fault → Raises sort (handler fault)) :
    Raises sort (tryCatch call handler) := by
  intro tree fault h
  rw [run_tryCatch] at h
  rcases hrun : call.run.run tree with ⟨result, after⟩
  rw [hrun] at h
  cases result with
  | ok a => cases h
  | error raised => exact hhandler raised (hcall tree raised (by rw [hrun])) after fault h

/-! ## Directories and files -/

theorem raises_locate (path : Path) : Raises Fault.IsForeign (locate path) := by
  unfold locate
  dsimp only
  split
  · exact raises_throw_bind nofun _
  · split
    · exact raises_throw_bind (Fault.isForeign_system _ _) _
    · refine raises_bind (raises_get _) fun tree => ?_
      split
      · exact raises_pure _ _
      · exact raises_throw (Fault.isForeign_system _ _)

theorem raises_write (path : Path) (bytes : List UInt8) :
    Raises Fault.IsForeign (write path bytes) := by
  refine raises_bind (raises_locate path) fun place => ?_
  refine raises_bind (raises_get _) fun tree => ?_
  split
  · exact raises_throw (Fault.isForeign_system _ _)
  · exact raises_modify _ _

theorem raises_makeOne (path : Path) : Raises Fault.IsForeign (makeOne path) := by
  refine raises_bind (raises_locate path) fun place => ?_
  refine raises_bind (raises_get _) fun tree => ?_
  split
  · exact raises_throw (Fault.isForeign_system _ _)
  · exact raises_modify _ _

theorem raises_entryOf (path : Path) : Raises Fault.IsForeign (entryOf path) := by
  unfold entryOf
  split
  · exact raises_pure _ _
  · refine raises_bind (raises_get _) fun tree => ?_
    split
    · exact raises_pure _ _
    · exact raises_throw (Fault.isForeign_system _ _)
    · exact raises_pure _ _

theorem raises_acceptDirectory (path : Path) {fault : Fault} (h : fault.IsForeign) :
    Raises Fault.IsForeign (acceptDirectory path fault) := by
  refine raises_bind ?_ fun found => ?_
  · exact raises_bind (raises_entryOf path) fun entry => raises_pure _ _
  · split
    · exact raises_throw h
    · exact raises_pure _ _

/-- Making a directory, or accepting that it is there, with what is above it. -/
theorem raises_makeAll (depth : Nat) (path : Path) :
    Raises Fault.IsForeign (makeAll depth path) := by
  induction depth generalizing path with
  | zero => exact raises_makeOne path
  | succ depth ih =>
      refine raises_tryCatch (raises_makeOne path) fun fault hfault => ?_
      split
      · split
        · exact raises_throw hfault
        · refine raises_bind (ih path.parent) fun _ => ?_
          refine raises_tryCatch (raises_makeOne path) fun again hagain => ?_
          split
          · exact raises_throw hagain
          · exact raises_acceptDirectory path hagain
          · exact raises_throw hagain
      · exact raises_acceptDirectory path hfault
      · exact raises_throw hfault

theorem raises_makeDirectories (path : Path) : Raises Fault.IsForeign (makeDirectories path) :=
  raises_makeAll path.names.length path

end Montage.File.Call
