import Chip8.Text

/-!
The operations of the processor, and their names in an instruction table. A table may also name
an operation that the processor does not have.
-/

namespace Chip8

/-- What an instruction does. -/
inductive Operation where
  | nop
  | clearScreen
  | ret
  | jump
  | call
  | skipEqual
  | skipNotEqual
  | skipSame
  | load
  | add
  | copy
  | or
  | and
  | xor
  | addRegister
  | subtract
  | shiftRight
  | subtractFrom
  | shiftLeft
  | skipDifferent
  | loadIndex
  | jumpOffset
  | random
  | draw
  | skipPressed
  | skipReleased
  | readDelay
  | awaitKey
  | setDelay
  | setSound
  | addIndex
  | glyphAddress
  | decimal
  | storeRegisters
  | loadRegisters
  deriving DecidableEq, Repr

namespace Operation

/-- All operations. -/
def all : List Operation :=
  [nop, clearScreen, ret, jump, call, skipEqual, skipNotEqual, skipSame, load, add, copy, or, and,
    xor, addRegister, subtract, shiftRight, subtractFrom, shiftLeft, skipDifferent, loadIndex,
    jumpOffset, random, draw, skipPressed, skipReleased, readDelay, awaitKey, setDelay, setSound,
    addIndex, glyphAddress, decimal, storeRegisters, loadRegisters]

/-- The name of an operation in an instruction table. -/
def name : Operation → String
  | nop => "op_nop"
  | clearScreen => "op_cls"
  | ret => "op_ret"
  | jump => "op_jp"
  | call => "op_call"
  | skipEqual => "op_se_imm"
  | skipNotEqual => "op_sne_imm"
  | skipSame => "op_se_reg"
  | load => "op_ld_imm"
  | add => "op_add_imm"
  | copy => "op_ld_reg"
  | or => "op_or"
  | and => "op_and"
  | xor => "op_xor"
  | addRegister => "op_add_reg"
  | subtract => "op_sub"
  | shiftRight => "op_shr"
  | subtractFrom => "op_subn"
  | shiftLeft => "op_shl"
  | skipDifferent => "op_sne_reg"
  | loadIndex => "op_ld_index"
  | jumpOffset => "op_jp_offset"
  | random => "op_rnd"
  | draw => "op_drw"
  | skipPressed => "op_skp"
  | skipReleased => "op_sknp"
  | readDelay => "op_ld_from_delay"
  | awaitKey => "op_wait_key"
  | setDelay => "op_ld_delay"
  | setSound => "op_ld_sound"
  | addIndex => "op_add_index"
  | glyphAddress => "op_ld_font"
  | decimal => "op_bcd"
  | storeRegisters => "op_store_registers"
  | loadRegisters => "op_load_registers"

/-- The operation of a name. -/
def ofName? (name : Text) : Option Operation := all.find? fun op => op.name == name

theorem mem_all (op : Operation) : op ∈ all := by
  cases op <;> decide

theorem ofName?_ofString (s : String) : ofName? s = all.find? (·.name == s) := by
  have h (op : Operation) : ((op.name : Text) == s) = (op.name == s) := by
    rw [Bool.eq_iff_iff, beq_iff_eq, beq_iff_eq, Text.ofString_inj]
  simp [ofName?, h]

theorem ofName?_name (op : Operation) : ofName? op.name = some op := by
  rw [ofName?_ofString]
  cases op <;> decide

end Operation

/-- What a row of an instruction table names: an operation, or one that there is not. -/
inductive Routine where
  | known (op : Operation)
  | missing (name : Text)
  deriving DecidableEq, Repr

namespace Routine

/-- The routine of a name. -/
def ofName (name : Text) : Routine :=
  match Operation.ofName? name with
  | some op => known op
  | none => missing name

/-- The name of a routine. -/
def name : Routine → Text
  | known op => op.name
  | missing name => name

theorem ofName_name_known (op : Operation) : ofName (name (known op)) = known op := by
  simp [ofName, name, Operation.ofName?_name]

theorem name_ofName (s : Text) : (ofName s).name = s := by
  unfold ofName
  split
  · rename_i op h
    have hp := List.find?_some (p := fun o : Operation => (o.name : Text) == s) h
    exact eq_of_beq hp
  · rfl

end Routine

end Chip8
