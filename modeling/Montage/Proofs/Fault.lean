/-
  Montage.Proofs.Fault

  Sorts of faults: those that are the failure of a job, which has a code, and all
  others.
-/
import Montage.Fault

namespace Montage

/-! ## Steps that may fail -/

section

variable {ε α β : Type} {first : Except ε α} {next : α → Except ε β}

theorem ok_bind (a : α) : (Except.ok a >>= next) = next a :=
  rfl

theorem exists_of_bind_eq_ok {b : β} (h : (first >>= next) = .ok b) :
    ∃ a, first = .ok a ∧ next a = .ok b := by
  cases first with
  | error fault => cases h
  | ok a => exact ⟨a, rfl, h⟩

/-- A fault comes from the first step, or from what follows its success. -/
theorem error_of_bind_eq_error {fault : ε} (h : (first >>= next) = .error fault) :
    first = .error fault ∨ ∃ a, first = .ok a ∧ next a = .error fault := by
  cases first with
  | error other =>
      cases h
      exact .inl rfl
  | ok a => exact .inr ⟨a, rfl, h⟩

theorem exists_of_isOk (h : first.isOk = true) : ∃ a, first = .ok a := by
  cases first with
  | error fault => cases h
  | ok a => exact ⟨a, rfl⟩

theorem exists_of_map_eq_ok {change : α → β} {b : β} (h : first.map change = .ok b) :
    ∃ a, first = .ok a ∧ b = change a := by
  cases first with
  | error other => cases h
  | ok a =>
      cases h
      exact ⟨a, rfl, rfl⟩

theorem error_of_map_eq_error {change : α → β} {fault : ε}
    (h : first.map change = .error fault) : first = .error fault := by
  cases first with
  | error other =>
      cases h
      rfl
  | ok a => cases h

end

/-! ## Failures and other faults -/

/-- Whether a message starts with a code. -/
def IsCoded (message : String) : Prop :=
  ∃ code text, message = code ++ ": " ++ text ∧ code ≠ ""

theorem FailureKind.code_ne_empty (kind : FailureKind) : kind.code ≠ "" := by
  cases kind <;> decide

theorem Failure.isCoded_text {failure : Failure} (h : failure.code ≠ "") : IsCoded failure.text :=
  ⟨failure.code, failure.message, rfl, h⟩

namespace Fault

/-- A fault that is no failure of a job. -/
def IsForeign (fault : Fault) : Prop :=
  ∀ failure, fault ≠ .failed failure

/-- A fault that has a code if it is the failure of a job. -/
def HasCode : Fault → Prop
  | .failed failure => failure.code ≠ ""
  | _ => True

theorem IsForeign.hasCode {fault : Fault} (h : fault.IsForeign) : fault.HasCode := by
  cases fault with
  | failed failure => exact absurd rfl (h failure)
  | _ => exact trivial

theorem isForeign_system (cause : SystemCause) (path : String) :
    (Fault.system cause path).IsForeign :=
  fun _ h => Fault.noConfusion h

/-- Every fault is the failure of a job or foreign. -/
theorem isForeign_or_failed (fault : Fault) :
    fault.IsForeign ∨ ∃ failure, fault = .failed failure := by
  cases fault with
  | failed failure => exact .inr ⟨failure, rfl⟩
  | _ => exact .inl fun failure h => Fault.noConfusion h

/-- A failure with the code of its kind. -/
theorem hasCode_of (kind : FailureKind) (message : Option String) :
    (Fault.failed (.of kind message)).HasCode :=
  kind.code_ne_empty

theorem hasCode_ofEngine (kind : FailureKind) (message : Option String) (exitCode : Option Int) :
    (Fault.failed (.ofEngine kind message exitCode)).HasCode :=
  kind.code_ne_empty

/-! ## Codes -/

/-- The code with which a fault is recorded. -/
def code : Fault → String
  | .failed failure => failure.code
  | _ => FailureKind.internal.code

/-- A fault that is recorded with the code of a kind, and not as a transient url. -/
def IsLasting (fault : Fault) : Prop :=
  ∃ kind, kind ≠ .transientAsset ∧ fault.code = FailureKind.code kind

theorem IsForeign.isLasting {fault : Fault} (h : fault.IsForeign) : fault.IsLasting := by
  refine ⟨.internal, nofun, ?_⟩
  cases fault with
  | failed failure => exact absurd rfl (h failure)
  | _ => rfl

end Fault

end Montage
