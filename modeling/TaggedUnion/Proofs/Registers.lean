import TaggedUnion.Machine.Procedure

/-!
# Registers of a state

Reading and overwriting one register of a state, with the table and the next free identity left as
they are.
-/

set_option autoImplicit false

namespace TaggedUnion.State

variable {Held : Type} (state : State Held) {register other : Register} {held : Option Held}

/-- What the register holds. -/
def content (register : Register) : Option Held := state.registers.get register

/-- The state with another content of the register. -/
def put : Register → Option Held → State Held
  | ⟨index, inside⟩, content => { state with registers := state.registers.set index content inside }

@[simp] theorem content_put_self : (state.put register held).content register = held :=
  Vector.getElem_set_self register.isLt

theorem content_put_of_ne (apart : register ≠ other) :
    (state.put register held).content other = state.content other :=
  Vector.getElem_set_ne register.isLt other.isLt fun same => apart (Fin.ext same)

theorem put_content : state.put register (state.content register) = state := by
  cases register
  simp [put, content, Vector.get]

/-- The registers in their order hold what each of them holds. -/
theorem mem_registers_iff :
    held ∈ state.registers.toList ↔ ∃ register, state.content register = held := by
  rw [List.mem_iff_getElem]
  constructor
  · rintro ⟨position, below, found⟩
    have inside : position < 4 := by simpa using below
    exact ⟨⟨position, inside⟩, (Vector.getElem_toList below).symm.trans found⟩
  · rintro ⟨register, found⟩
    have inside : register.val < state.registers.toList.length := by simp
    exact ⟨register, inside, (Vector.getElem_toList inside).trans found⟩

end TaggedUnion.State
