import AbiBindings.Tao.ElementTypes

/-!
# The library's table of element types

Measuring the element types never fails, so the table that the library defines always exists.
-/

namespace AbiBindings

theorem mapM_ok {α β ε : Type} {f : α → Except ε β} {g : α → β} (h : ∀ a, f a = .ok (g a))
    (as : List α) : as.mapM f = .ok (as.map g) := by
  induction as with
  | nil => rfl
  | cons a rest ih =>
    simp only [List.mapM_cons, h a, ih]
    rfl

namespace Tao

namespace NativeElement

def representation : NativeElement → Representation
  | int8 => ⟨1, .signed, by decide⟩
  | uint8 => ⟨1, .unsigned, by decide⟩
  | int16 => ⟨2, .signed, by decide⟩
  | uint16 => ⟨2, .unsigned, by decide⟩
  | int32 => ⟨4, .signed, by decide⟩
  | uint32 => ⟨4, .unsigned, by decide⟩
  | int64 => ⟨8, .signed, by decide⟩
  | uint64 => ⟨8, .unsigned, by decide⟩
  | float => ⟨4, .float, by decide⟩
  | double => ⟨8, .float, by decide⟩

theorem measure_scalar (e : NativeElement) : e.scalar.measure = .ok e.representation := by
  cases e <;> rfl

/-- The table entry, with the representation that measuring finds. -/
def entry (e : NativeElement) : ElementType where
  name := e.name
  repr := e.representation
  juliaType := e.juliaType
  code := e.code
  description := e.description

theorem measure_eq_entry (e : NativeElement) : e.measure = .ok e.entry := by
  simp only [measure, measure_scalar]
  rfl

end NativeElement

/-- The library's own table, measured. -/
def ElementTypes.own : ElementTypes :=
  ⟨NativeElement.all.map NativeElement.entry⟩

theorem ElementTypes.tao_eq_own : tao = .ok own := by
  simp only [tao, mapM_ok NativeElement.measure_eq_entry]
  rfl

end Tao

end AbiBindings
