import Chip8.Proofs.Machine.PowerCycle
import Chip8.Rom

/-!
Programs from a file to memory.

Two checks stand between a file and memory: an image must not be empty or too long, and what is
loaded must fit behind the start of programs. They agree on every number of bytes, and what passes
them lies in memory as it is, with the font before it and zeros around it (`Machine.Agrees`).
-/

namespace Chip8

open Interpreter (initial installFont)

variable {m : Interpreter} {program : List UInt8}

/-! ### Images -/

namespace Rom

/-- Bytes are accepted as an image unless there are none or too many, and then they are the image. -/
lemma ofBytes_eq_ok_iff {name : Text} {r : Rom} : ofBytes program name = .ok r ↔
    (1 ≤ program.length ∧ program.length ≤ 3584) ∧ r = { data := program, name } := by
  by_cases hempty : program = []
  · subst hempty
    exact iff_of_false nofun fun h => absurd h.1.1 (by decide)
  have hpos := List.length_pos_iff.2 hempty
  by_cases hlong : maxProgramSize < program.length
  · rw [ofBytes_of_long name hlong]
    exact iff_of_false nofun fun h => absurd h.1.2 (not_le.2 hlong)
  · rw [ofBytes_of_fits name hempty (not_lt.1 hlong), Except.ok.injEq, eq_comm]
    exact (and_iff_right ⟨hpos, not_lt.1 hlong⟩).symm

/-- An image is what its stream holds, however much is read at once. -/
lemma load_eq (stream : List UInt8) (name : Text) :
    Logging.Gives (· = ofBytes stream name) (load stream name) := by
  rw [load, ofBytes_firstBytes]
  rcases ofBytes stream name with e | rom
  · exact .pure rfl
  · dsimp only
    split
    · exact .after _ fun _ => .pure rfl
    · exact .pure rfl

lemma loadFile_eq (files : FileSystem) (path : Path) :
    Logging.Gives (· = match files.read path with
      | .error e => .error (.unreadable e)
      | .ok data => (ofBytes data path.stem).mapError .format) (loadFile files path) := by
  rw [loadFile]
  rcases files.read path with e | data
  · exact .pure rfl
  · refine (load_eq data path.stem).bind fun r hr => ?_
    rw [hr]
    exact .pure rfl

end Rom

/-! ### Memory -/

namespace Interpreter

/-- The processor with a program where programs start. -/
def withProgram (m : Interpreter) (program : List UInt8) : Interpreter :=
  { m with memory := ⟨Memory.put m.memory.bytes programStart program⟩ }

lemma load_of_fits (m : Interpreter) (h : program.length ≤ maxProgramSize) :
    m.load program = .ok (m.withProgram program) := by
  have hfits : 0 ≤ (programStart : Int) ∧
      (programStart : Int) + (program.map fun b => (b.toNat : Int)).length ≤ 4096 := by
    simp only [maxProgramSize, Region.main, programStart] at h ⊢
    rw [List.length_map]
    omega
  have hbytes : (program.map fun b => (b.toNat : Int)).map byteOf = program := by
    rw [List.map_map]
    exact List.map_id'' byteOf_toNat program
  rw [load, if_neg (not_lt.2 h), Memory.write, span_main, dif_pos hfits]
  change Except.ok { m with memory := ⟨Memory.put _ _ _⟩ } = _
  rw [hbytes]
  rfl

lemma load_of_long (m : Interpreter) (h : maxProgramSize < program.length) :
    m.load program = .error (.programTooLong program.length) := if_pos h

/-- A new processor has the font at the bottom of memory and zeros behind it. -/
lemma snapshot_initial :
    initial.memory.snapshot = Font.bytes ++ List.replicate (4096 - 80) 0 := by
  have hlength : Font.start + Font.bytes.length ≤ Region.main.length := by decide
  refine (Memory.toList_put _ Font.start Font.bytes hlength).trans ?_
  change [] ++ Font.bytes ++ (List.replicate 4096 0).drop 80 = _
  rw [List.nil_append, List.drop_replicate]

/-- What memory holds of a program: the font, zeros up to the program, and zeros behind it. -/
def memoryWith (program : List UInt8) : List UInt8 :=
  Font.bytes ++ List.replicate (0x200 - 80) 0 ++ program ++
    List.replicate (3584 - program.length) 0

lemma take_append_zeros {bytes : List UInt8} {k : Nat} (h : bytes.length ≤ k) (n : Nat) :
    (bytes ++ List.replicate n 0).take k = bytes ++ List.replicate (min (k - bytes.length) n) 0 := by
  rw [List.take_append, List.take_of_length_le h, List.take_replicate]

lemma drop_append_zeros {bytes : List UInt8} {k : Nat} (h : bytes.length ≤ k) (n : Nat) :
    (bytes ++ List.replicate n 0).drop k = List.replicate (n - (k - bytes.length)) 0 := by
  rw [List.drop_append, List.drop_eq_nil_of_le h, List.drop_replicate, List.nil_append]

lemma snapshot_withProgram (h : program.length ≤ maxProgramSize) :
    (initial.withProgram program).memory.snapshot = memoryWith program := by
  have hroom : programStart + program.length ≤ Region.main.length := by
    simp only [maxProgramSize, Region.main, programStart] at h ⊢
    omega
  refine (Memory.toList_put _ programStart program hroom).trans ?_
  have hinitial : initial.memory.bytes.toList = Font.bytes ++ List.replicate (4096 - 80) 0 :=
    snapshot_initial
  have hbefore : min (programStart - 80) (4096 - 80) = 0x200 - 80 := by decide
  have hbehind : 4096 - 80 - (programStart + program.length - 80) = 3584 - program.length := by
    rw [programStart]
    omega
  rw [hinitial, take_append_zeros, drop_append_zeros, Font.length_bytes, hbefore, hbehind,
    memoryWith]
  · rw [Font.length_bytes, programStart]
    omega
  · rw [Font.length_bytes]
    decide

end Interpreter

namespace Machine

variable {pad : Keypad} {i : Interpreter}

/-- An empty program is loaded as any other. -/
lemma powerOn_eq (p : Interpreter) (pad : Keypad) (h : program.length ≤ maxProgramSize) :
    powerOn p program pad = .ok (takeKeys (p.withProgram program) pad) := by
  rw [powerOn]
  split
  · rename_i hempty
    obtain rfl := List.isEmpty_iff.1 hempty
    rfl
  · rw [p.load_of_fits h]
    rfl

lemma powerOn_of_long (p : Interpreter) (pad : Keypad) (h : maxProgramSize < program.length) :
    powerOn p program pad = .error (.programTooLong program.length) := by
  have hempty : ¬program.isEmpty = true := by
    intro hempty
    rw [List.isEmpty_iff.1 hempty] at h
    exact absurd h (Nat.not_lt_zero _)
  rw [powerOn, if_neg hempty, p.load_of_long h]
  rfl

lemma snapshot_of_powerOn (hi : powerOn initial program pad = .ok i) :
    i.memory.snapshot = Interpreter.memoryWith program := by
  have h := length_of_powerOn hi
  rw [powerOn_eq _ _ h] at hi
  obtain rfl := Except.ok.inj hi
  rw [takeKeys_eq_foldl, foldl_setKey, Interpreter.snapshot_withProgram h]

/-- What becomes of bytes on their way from a stream to memory. -/
structure Agrees (program : List UInt8) (name : Text) : Prop where
  /-- They are an image unless there are none or too many, and it holds them as they are. -/
  image : ∀ log r, ((Rom.load program name).run log).1 = .ok r ↔
    (1 ≤ program.length ∧ program.length ≤ 3584) ∧ r = { data := program, name }
  /-- So they are when they come from a file. -/
  file : ∀ (files : FileSystem) path log r, files.read path = .ok program →
    (((Rom.loadFile files path).run log).1 = .ok r ↔
      (1 ≤ program.length ∧ program.length ≤ 3584) ∧ r = { data := program, name := path.stem })
  load : ∀ m : Interpreter, (∃ after, m.load program = .ok after) ↔ program.length ≤ 3584
  /-- An image that is accepted makes a machine. -/
  create : ∀ cycles random pad, 0 < cycles → 1 ≤ program.length → program.length ≤ 3584 →
    ∃ m, Machine.create program cycles random pad = .ok m
  tooLong : 3584 < program.length →
    (∀ log, ((Rom.load program name).run log).1 = .error .tooLong) ∧
    (∀ m : Interpreter, m.load program = .error (.programTooLong program.length)) ∧
    ∀ cycles random pad, 0 < cycles →
      Machine.create program cycles random pad = .error (.fault (.programTooLong program.length))
  /-- A load that is refused leaves the processor as it is. -/
  refused : ∀ (hw : Hardware) (m : Interpreter) f,
    ((Interpreter.Request.load program).perform hw m).1 = .error f →
      ((Interpreter.Request.load program).perform hw m).2 = m
  layout : ∀ cycles random pad m, Machine.create program cycles random pad = .ok m →
    m.interpreter.memory.snapshot = Interpreter.memoryWith program

/-- **The checks on programs agree.** For all bytes and names: they are accepted as an image, from a
stream or a file, if there are from 1 to 3584 of them, and the image holds them as they are; a
processor loads them if there are no more than 3584; so every image makes a machine, and more bytes
are refused everywhere. The memory of a machine holds the font, zeros up to 0x1FF, the bytes from
0x200 on, and zeros behind them. A load that is refused changes nothing. -/
theorem program_checks_agree (program : List UInt8) (name : Text) : Agrees program name where
  image log r := by
    rw [Rom.load_eq program name log, Rom.ofBytes_eq_ok_iff]
  file files path log r hread := by
    rw [Rom.loadFile_eq files path log, hread]
    dsimp only
    rw [← Rom.ofBytes_eq_ok_iff]
    rcases Rom.ofBytes program path.stem with e | rom
    · exact iff_of_false nofun nofun
    · simp only [Except.mapError, Except.ok.injEq]
  load m := by
    by_cases h : program.length ≤ maxProgramSize
    · exact iff_of_true ⟨_, m.load_of_fits h⟩ h
    · refine iff_of_false ?_ h
      rw [m.load_of_long (not_le.1 h)]
      exact nofun
  create cycles random pad hcycles _ h := exists_create hcycles h pad
  tooLong h := by
    refine ⟨fun log => ?_, fun m => m.load_of_long h, fun cycles random pad hcycles => ?_⟩
    · rw [Rom.load_eq program name log, Rom.ofBytes_of_long name h]
    · rw [Machine.create, if_neg (not_le.2 hcycles), powerOn_of_long _ _ h]
      rfl
  refused hw m f hf := by
    rw [Interpreter.Request.perform] at hf ⊢
    rcases hload : m.load program with f' | after <;> rw [hload] at hf
    · rfl
    · cases hf
  layout cycles random pad m hm := by
    obtain ⟨-, i, hi, rfl⟩ := create_eq_ok_iff.1 hm
    exact snapshot_of_powerOn hi

end Machine

end Chip8
