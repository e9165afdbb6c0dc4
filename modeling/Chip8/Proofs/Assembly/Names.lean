import Chip8.Assembly.Cursor.Lemmas
import Chip8.Assembly.Draft

/-! # Names and what they mean

A name as sources can contain it has no colon. So the full name of a label tells both the module and
the label apart (`qualify_inj`), whatever the module is called, and a reference means one label of
one module.
-/

namespace Chip8.Assembly

theorem isNameChar_ne_colon {c : Char} (valid : isNameChar c) : c ≠ ':' := by
  rintro rfl
  exact absurd valid (by decide)

theorem IsName.colon_not_mem {name : String} (valid : IsName name) : ':' ∉ name.toList :=
  fun member => isNameChar_ne_colon (valid.all _ member) rfl

/-- A text ends in one way only behind the last occurrence of a character. -/
private theorem append_cons_inj {c : Char} {front front' back back' : List Char}
    (absent : c ∉ back) (absent' : c ∉ back') (same : front ++ c :: back = front' ++ c :: back') :
    front = front' ∧ back = back' := by
  rcases List.append_eq_append_iff.mp same with
    ⟨between, frontEq, backEq⟩ | ⟨between, frontEq, backEq⟩
  · cases between with
    | nil => simp_all
    | cons first rest =>
      have member : c ∈ back := by
        rw [(List.cons.inj backEq).2]
        exact List.mem_append_right _ (List.mem_cons_self ..)
      exact absurd member absent
  · cases between with
    | nil => simp_all
    | cons first rest =>
      have member : c ∈ back' := by
        rw [(List.cons.inj backEq).2]
        exact List.mem_append_right _ (List.mem_cons_self ..)
      exact absurd member absent'

theorem toList_qualify (scope name : String) :
    (qualify scope name).toList = (scope.toList ++ [':']) ++ ':' :: name.toList := by
  simp only [qualify, String.toList_append, List.append_assoc]
  rfl

/-- Two labels have the same full name only if they are the same label of the same module. -/
theorem qualify_inj {scope scope' name name' : String} (valid : IsName name)
    (valid' : IsName name') (same : qualify scope name = qualify scope' name') :
    scope = scope' ∧ name = name' := by
  have texts := congrArg String.toList same
  rw [toList_qualify, toList_qualify] at texts
  obtain ⟨scopes, names⟩ := append_cons_inj valid.colon_not_mem valid'.colon_not_mem texts
  exact ⟨String.toList_injective (List.append_cancel_right scopes), String.toList_injective names⟩

/-- A reference as sources can contain it: a name, or a module and a name. -/
inductive Reference.Named : Reference → Prop where
  | near {name : String} : IsName name → Named ⟨[name]⟩
  | far {scope name : String} : IsName scope → IsName name → Named ⟨[scope, name]⟩

/-- The module and the label that a reference means in a module. -/
def Reference.meaning (scope : String) (target : Reference) : String × String :=
  match target.parts with
  | [] => (scope, "")
  | [name] => (scope, name)
  | scope :: name :: _ => (scope, name)

def Reference.fullName (scope : String) (target : Reference) : String :=
  qualify (target.meaning scope).1 (target.meaning scope).2

theorem Reference.Named.meaning {target : Reference} (named : target.Named) (scope : String) :
    IsName (target.meaning scope).2 := by
  cases named with
  | near name => exact name
  | far _ name => exact name

/-- A reference as sources can contain it always resolves. -/
theorem Reference.Named.resolve {target : Reference} (named : target.Named) (draft : Draft) :
    draft.resolve target = .ok (target.fullName draft.scope) := by
  cases named with
  | near => rfl
  | far => rfl

end Chip8.Assembly
