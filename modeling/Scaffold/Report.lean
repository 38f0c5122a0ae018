import Scaffold.Json.Codec

/-!
Reports: errors and warnings that a check has collected.
-/

namespace Scaffold

/-- The findings of a check. `valid` is the verdict as it was stored or sent along; a report that the
operations below build has it true exactly where there is no error. -/
structure Report where
  valid : Bool
  errors : List String
  warnings : List String
  deriving DecidableEq, Repr

namespace Report

def ok : Report := ⟨true, [], []⟩

instance : Inhabited Report := ⟨ok⟩

def isValid (r : Report) : Bool :=
  r.errors.isEmpty

def addError (r : Report) (message : String) : Report :=
  { r with valid := false, errors := r.errors ++ [message] }

def addWarning (r : Report) (message : String) : Report :=
  { r with warnings := r.warnings ++ [message] }

/-- Both reports' findings, the first one's first. The verdict is taken from the errors. -/
def merge (r s : Report) : Report :=
  let errors := r.errors ++ s.errors
  ⟨errors.isEmpty, errors, r.warnings ++ s.warnings⟩

/-- The report of a check that comes upon all errors before its warnings. -/
def ofFindings (errors warnings : List String) : Report :=
  warnings.foldl addWarning (errors.foldl addError ok)

@[simp] theorem errors_addError (r : Report) (message : String) :
    (r.addError message).errors = r.errors ++ [message] := rfl

@[simp] theorem errors_addWarning (r : Report) (message : String) :
    (r.addWarning message).errors = r.errors := rfl

@[simp] theorem warnings_addError (r : Report) (message : String) :
    (r.addError message).warnings = r.warnings := rfl

@[simp] theorem warnings_addWarning (r : Report) (message : String) :
    (r.addWarning message).warnings = r.warnings ++ [message] := rfl

@[simp] theorem errors_merge (r s : Report) : (r.merge s).errors = r.errors ++ s.errors := rfl

@[simp] theorem warnings_merge (r s : Report) :
    (r.merge s).warnings = r.warnings ++ s.warnings := rfl

section Collecting

variable {add : Report → String → Report} {part : Report → List String}

theorem foldl_eq_append (adds : ∀ r message, part (add r message) = part r ++ [message])
    (messages : List String) (r : Report) :
    part (messages.foldl add r) = part r ++ messages := by
  induction messages generalizing r with
  | nil => exact (List.append_nil (part r)).symm
  | cons message messages ih =>
      rw [List.foldl_cons, ih, adds, List.append_assoc, List.singleton_append]

theorem foldl_eq_self (keeps : ∀ r message, part (add r message) = part r)
    (messages : List String) (r : Report) : part (messages.foldl add r) = part r := by
  induction messages generalizing r with
  | nil => rfl
  | cons message messages ih => rw [List.foldl_cons, ih, keeps]

end Collecting

@[simp] theorem errors_foldl_addError (messages : List String) (r : Report) :
    (messages.foldl addError r).errors = r.errors ++ messages :=
  foldl_eq_append errors_addError messages r

@[simp] theorem warnings_foldl_addError (messages : List String) (r : Report) :
    (messages.foldl addError r).warnings = r.warnings :=
  foldl_eq_self warnings_addError messages r

@[simp] theorem errors_foldl_addWarning (messages : List String) (r : Report) :
    (messages.foldl addWarning r).errors = r.errors :=
  foldl_eq_self errors_addWarning messages r

@[simp] theorem warnings_foldl_addWarning (messages : List String) (r : Report) :
    (messages.foldl addWarning r).warnings = r.warnings ++ messages :=
  foldl_eq_append warnings_addWarning messages r

@[simp] theorem errors_ofFindings (errors warnings : List String) :
    (ofFindings errors warnings).errors = errors := by
  simp [ofFindings, ok]

@[simp] theorem warnings_ofFindings (errors warnings : List String) :
    (ofFindings errors warnings).warnings = warnings := by
  simp [ofFindings, ok]

/-- The verdict that was stored is that of the errors. -/
def Agrees (r : Report) : Prop :=
  r.valid = r.isValid

theorem agrees_ok : ok.Agrees := rfl

theorem agrees_addError (r : Report) (message : String) : (r.addError message).Agrees := by
  simp [Agrees, isValid, addError]

theorem Agrees.addWarning {r : Report} (agrees : r.Agrees) (message : String) :
    (r.addWarning message).Agrees :=
  agrees

theorem agrees_ofFindings (errors warnings : List String) :
    (ofFindings errors warnings).Agrees := by
  have found : (errors.foldl Report.addError ok).Agrees :=
    List.foldlRecOn errors Report.addError agrees_ok fun r _ message _ => r.agrees_addError message
  exact List.foldlRecOn warnings Report.addWarning found fun _ agrees message _ =>
    agrees.addWarning message

def toJson (r : Report) : Json :=
  .object [("valid", .bool r.valid), ("errors", .strings r.errors),
    ("warnings", .strings r.warnings)]

def ofJson? (j : Json) : Option Report := do
  let ms ← j.record? ["valid", "errors", "warnings"]
  return {
    valid := ← ms.required "valid" Json.bool?
    errors := ← ms.required "errors" (Json.list? Json.string?)
    warnings := ← ms.required "warnings" (Json.list? Json.string?) }

end Report

end Scaffold
