import Chip8.Proofs.Interpreter.Frame
import Chip8.Proofs.Interpreter.Words

/-!
Calls and returns.

A tick leaves the stack alone, or it is a call and fills the slot at the stack pointer, or it is a
return and takes the slot below (`StackStep`). So a slot below the pointer is not written before the
pointer is back at it, and the call that filled it is the one that its return goes back behind. This
holds of whole histories, with calls nested in any way, with ticks that fail and with programs that
overwrite themselves (`call_returns`).
-/

namespace Chip8.Interpreter

open Pattern (Fits)

variable {hw : Hardware} {m after caller : Interpreter} {o : Except Fault Unit}
  {random : Nat → UInt8}

/-! ### What a tick does to the stack -/

/-- A tick by the standard table, as far as the stack is concerned. -/
inductive StackStep (m : Interpreter) : Except Fault Unit → Interpreter → Prop
  /-- Also what a tick that fails comes to. -/
  | stays {o : Except Fault Unit} {after : Interpreter}
      (sp : after.registers.sp = m.registers.sp)
      (stack : after.registers.stack = m.registers.stack) : StackStep m o after
  | calls {after : Interpreter} (room : m.registers.sp < 16)
      (sp : after.registers.sp = m.registers.sp + 1)
      (stack : after.registers.stack =
        m.registers.stack.setIfInBounds m.registers.sp (m.registers.pc + 2)) :
      StackStep m (.ok ()) after
  /-- The slot that is read keeps its address. -/
  | returns {after : Interpreter} (inside : m.registers.pc ≤ 0xFFE) (reads : Fits "00EE" m.word)
      (sp : after.registers.sp + 1 = m.registers.sp)
      (stack : after.registers.stack = m.registers.stack)
      (pc : m.registers.stack[after.registers.sp]? = some after.registers.pc) :
      StackStep m (.ok ()) after

namespace StackStep

/-- The stack pointer moves by one at most. -/
lemma sp_le (h : StackStep m o after) :
    after.registers.sp ≤ m.registers.sp + 1 ∧ m.registers.sp ≤ after.registers.sp + 1 := by
  cases h with
  | stays sp | calls _ sp | returns _ _ sp => omega

/-- A slot other than the one at the stack pointer is not written. -/
lemma slot_eq (h : StackStep m o after) {k : Nat} (hk : k ≠ m.registers.sp) :
    after.registers.stack[k]? = m.registers.stack[k]? := by
  cases h with
  | stays _ stack => rw [stack]
  | calls _ _ stack => rw [stack, Vector.getElem?_setIfInBounds_ne (Ne.symm hk)]
  | returns _ _ _ stack => rw [stack]

end StackStep

lemma stackStep_of_return (runs : m.Runs .ret) (go : m.skip.refusal .ret m.word = none) :
    StackStep m (.ok ()) (m.skip.successor hw .ret m.word) := by
  have hgo : m.skip.returnRefusal = none := go
  have hlive := returnRefusal_eq_none_iff.1 hgo
  change 0 < m.registers.sp ∧ m.registers.sp ≤ 16 at hlive
  have hlt : m.registers.sp - 1 < 16 := by omega
  have hpc : (m.skip.successor hw .ret m.word).registers.pc =
      (m.registers.stack[m.registers.sp - 1]?).getD 0 := rfl
  refine .returns runs.inside runs.fits ?_ rfl ?_
  · rw [sp_successor]
    exact Nat.sub_add_cancel hlive.1
  · rw [hpc, sp_successor]
    change m.registers.stack[m.registers.sp - 1]? = _
    rw [Vector.getElem?_eq_getElem hlt, Option.getD_some]

lemma stackStep_of_call (h : m.InRange) (runs : m.Runs .call)
    (go : m.skip.refusal .call m.word = none) :
    StackStep m (.ok ()) (m.skip.successor hw .call m.word) := by
  have hpc := (h.skip_of_fetch (h.fetch_word runs.inside)).2
  have hgo : m.skip.callRefusal = none := go
  have hroom := callRefusal_eq_none_iff.1 hgo
  refine .calls hroom rfl ?_
  rw [stack_successor, hpc]
  rfl

/-- A tick is one of these. -/
theorem InRange.stackStep (h : m.InRange) :
    StackStep m (m.tick { random }).1 (m.tick { random }).2 := by
  rcases word_cases m with beyond | ⟨inside, unknown⟩ | ⟨op, runs⟩
  · rw [h.tick_beyond beyond]
    exact .stays rfl rfl
  · rw [h.tick_unknown inside unknown]
    exact .stays rfl rfl
  rw [h.tick_of_runs runs]
  rcases go : m.skip.refusal op m.word with _ | f
  · change StackStep m (.ok ()) (m.skip.successor { random } op m.word)
    cases op with
    | ret => exact stackStep_of_return runs go
    | call => exact stackStep_of_call h runs go
    | _ => exact .stays sp_successor stack_successor
  · exact .stays rfl rfl

/-! ### In a call -/

/-- The stack holds what it held when a call was made, and the address behind the call. -/
structure Saved (caller m : Interpreter) : Prop where
  below : ∀ k < caller.registers.sp, m.registers.stack[k]? = caller.registers.stack[k]?
  back : m.registers.stack[caller.registers.sp]? = some (caller.registers.pc + 2)

/-- The call has not returned. -/
structure InCall (caller m : Interpreter) : Prop where
  inRange : m.InRange
  deeper : caller.registers.sp < m.registers.sp
  saved : Saved caller m

namespace InCall

lemma saved_of_step (h : InCall caller m) (step : StackStep m o after) : Saved caller after := by
  have hdeeper := h.deeper
  refine ⟨fun k hk => ?_, ?_⟩
  · rw [step.slot_eq (by omega), h.saved.below k hk]
  · rw [step.slot_eq (by omega), h.saved.back]

/-- The tick that ends a call is a return, and goes back behind the call. -/
lemma returns_of_step (h : InCall caller m) (step : StackStep m o after)
    (ended : after.registers.sp ≤ caller.registers.sp) :
    o = .ok () ∧ m.registers.pc ≤ 0xFFE ∧ Fits "00EE" m.word ∧
      after.registers.sp = caller.registers.sp ∧
      after.registers.pc = caller.registers.pc + 2 := by
  have hdeeper := h.deeper
  cases step with
  | stays sp => omega
  | calls _ sp => omega
  | returns inside reads sp _ pc =>
    have hsp : after.registers.sp = caller.registers.sp := by omega
    rw [hsp, h.saved.back] at pc
    exact ⟨rfl, inside, reads, hsp, (Option.some.inj pc).symm⟩

end InCall

/-- A request that is no reset is a step of the stack, and only a tick moves the pointer. -/
lemma InRange.stackStep_perform (h : m.InRange) (random : Nat → UInt8) {r : Request}
    (hreset : r ≠ .reset) :
    StackStep m (r.perform { random } m).1 (r.perform { random } m).2 ∧
      (r ≠ .tick → (r.perform { random } m).2.registers.sp = m.registers.sp) := by
  by_cases htick : r = .tick
  · subst htick
    exact ⟨h.stackStep, fun hne => absurd rfl hne⟩
  have effect := effect_perform { random } m r
  generalize r.perform { random } m = result at effect ⊢
  obtain ⟨o, after⟩ := result
  cases effect with
  | tick => exact absurd rfl htick
  | reset => exact absurd rfl hreset
  | timers | memory | keys => exact ⟨.stays rfl rfl, fun _ => rfl⟩

/-- A call that is not refused leaves its way back on the stack. -/
lemma InRange.inCall_of_call (h : m.InRange) (random : Nat → UInt8) (runs : m.Runs .call)
    (room : m.registers.sp ≤ 15) :
    (m.tick { random }).1 = .ok () ∧ (m.tick { random }).2.registers.sp = m.registers.sp + 1 ∧
      InCall m (m.tick { random }).2 := by
  have hroom : m.skip.registers.sp < 16 := Nat.lt_succ_of_le room
  have go : m.skip.refusal .call m.word = none := callRefusal_eq_none_iff.2 hroom
  have step : StackStep m (.ok ()) (m.skip.successor { random } .call m.word) :=
    stackStep_of_call h runs go
  have hpc := (h.skip_of_fetch (h.fetch_word runs.inside)).2
  have hsp : (m.skip.successor { random } .call m.word).registers.sp = m.registers.sp + 1 := rfl
  have hrange : (m.tick { random }).2.InRange := h.tick
  rw [h.tick_of_go runs go] at hrange ⊢
  refine ⟨rfl, hsp, hrange, ?_, fun k hk => step.slot_eq (Nat.ne_of_lt hk), ?_⟩
  · simp only [hsp]
    omega
  · rw [stack_successor, ← hpc]
    exact Vector.getElem?_setIfInBounds_self_of_lt hroom

/-! ### Whole histories -/

/-- A history that goes on from a state has no reset, and wherever it is broken off, the stack is
higher than at the call. -/
structure Within (hw : Hardware) (caller m : Interpreter) (later : List Request) : Prop where
  noReset : ∀ r ∈ later, r ≠ .reset
  deeper : ∀ earlier, earlier <+: later → caller.registers.sp < (run hw m earlier).registers.sp

lemma Within.tail {r : Request} {later : List Request} (h : Within hw caller m (r :: later)) :
    Within hw caller (r.perform hw m).2 later where
  noReset r' hr' := h.noReset r' (List.mem_cons_of_mem r hr')
  deeper earlier he := h.deeper (r :: earlier) (List.cons_prefix_cons.2 ⟨rfl, he⟩)

/-- The call does not return in a history within it. -/
lemma InCall.run {later : List Request} (h : InCall caller m)
    (within : Within { random } caller m later) : InCall caller (run { random } m later) := by
  induction later generalizing m with
  | nil => exact h
  | cons r later ih =>
    -- one request on, the processor is still in the call, because the history may break off there
    have hreset : r ≠ .reset := within.noReset r List.mem_cons_self
    have hdeeper : caller.registers.sp < (r.perform { random } m).2.registers.sp :=
      within.deeper [r] (List.cons_prefix_cons.2 ⟨rfl, List.nil_prefix⟩)
    have step := (h.inRange.stackStep_perform random hreset).1
    exact ih ⟨h.inRange.perform r, hdeeper, h.saved_of_step step⟩ within.tail

/-- The next tick executes a return that goes on behind a call. -/
structure ReturnsNext (hw : Hardware) (caller m : Interpreter) : Prop where
  done : (m.tick hw).1 = .ok ()
  reads : ∃ w, m.fetch = .ok w ∧ Fits "00EE" w
  sp : (m.tick hw).2.registers.sp = caller.registers.sp
  pc : (m.tick hw).2.registers.pc = caller.registers.pc + 2

/-- What a call brings about. -/
structure CallReturns (hw : Hardware) (caller : Interpreter) : Prop where
  done : (caller.tick hw).1 = .ok ()
  deeper : (caller.tick hw).2.registers.sp = caller.registers.sp + 1
  /-- While the stack stays higher, its lower slots and the way back are as the call left them. -/
  saved : ∀ later, Within hw caller (caller.tick hw).2 later →
    Saved caller (run hw (caller.tick hw).2 later)
  /-- What takes the stack back is a tick that executes a return, and it goes on behind the call. -/
  back : ∀ (later : List Request) (r : Request),
    Within hw caller (caller.tick hw).2 later → r ≠ .reset →
    let m := run hw (caller.tick hw).2 later
    (r.perform hw m).2.registers.sp ≤ caller.registers.sp →
      r = .tick ∧ ReturnsNext hw caller m

lemma InCall.back (h : InCall caller m) {r : Request} (hreset : r ≠ .reset)
    (ended : (r.perform { random } m).2.registers.sp ≤ caller.registers.sp) :
    r = .tick ∧ ReturnsNext { random } caller m := by
  obtain ⟨step, hsame⟩ := h.inRange.stackStep_perform random hreset
  have htick : r = .tick := by
    by_contra htick
    rw [hsame htick] at ended
    exact absurd h.deeper (not_lt.2 ended)
  subst htick
  obtain ⟨done, inside, reads, hsp, hpc⟩ := h.returns_of_step step ended
  exact ⟨rfl, done, ⟨m.word, h.inRange.fetch_word inside, reads⟩, hsp, hpc⟩

/-- **Calls return.** Take any processor that a host can bring about, with the standard table. A
tick moves the stack pointer by one at most. If the next word is a call and the stack is not full,
the call succeeds; and whatever is done afterwards short of a reset, the stack keeps what it held
and the way back as long as it stays higher, and it comes back down by a return that goes on behind
the call. -/
theorem call_returns (random : Nat → UInt8) (requests : List Request) :
    let m := run { random } initial requests
    ((m.tick { random }).2.registers.sp ≤ m.registers.sp + 1 ∧
        m.registers.sp ≤ (m.tick { random }).2.registers.sp + 1) ∧
      ∀ w, m.fetch = .ok w → Fits "2NNN" w → m.registers.sp ≤ 15 →
        CallReturns { random } m := by
  intro m
  have h : m.InRange := inRange_initial.run requests
  refine ⟨h.stackStep.sp_le, fun w fetched reads room => ?_⟩
  obtain ⟨inside, rfl⟩ := h.eq_word_of_fetch fetched
  have runs : m.Runs .call := ⟨inside, reads⟩
  obtain ⟨done, deeper, inCall⟩ := h.inCall_of_call random runs room
  refine ⟨done, deeper, fun later within => (inCall.run within).saved, ?_⟩
  intro later r within hreset inner ended
  exact (inCall.run within).back hreset ended

/-- A call from 0x200 that calls another: the second return goes back to 0x202. -/
theorem call_returns_nested :
    let program := [0x22, 0x04, 0x12, 0x02, 0x22, 0x08, 0x00, 0xEE, 0x00, 0xEE]
    let caller := run {} initial [.write 0x200 program]
    let called := (caller.tick {}).2
    (∃ w, caller.fetch = .ok w ∧ Fits "2NNN" w) ∧ caller.registers.sp ≤ 15 ∧
      Within {} caller called [.tick, .tick] ∧
      Saved caller (run {} called [.tick, .tick]) ∧
      ((run {} called [.tick, .tick]).tick {}).2.registers.pc = 0x202 := by
  intro program caller called
  have trace : caller.fetch = .ok ⟨0x2204, by decide⟩ ∧ caller.registers.pc = 0x200 ∧
      caller.registers.sp = 0 ∧ called.registers.sp = 1 ∧
      (run {} called [.tick]).registers.sp = 2 ∧ (run {} called [.tick, .tick]).registers.sp = 1 ∧
      ((run {} called [.tick, .tick]).tick {}).2.registers.sp = 0 := by
    decide +kernel
  obtain ⟨fetched, hpc, hsp, hsp₁, hsp₂, hsp₃, hsp₄⟩ := trace
  have reads : Fits "2NNN" ⟨0x2204, by decide⟩ :=
    Table.decode_known_iff.1 ⟨⟨⟨"2NNN", 0xF000, 0x2000⟩, "CALL", .known .call⟩, by decide +kernel,
      rfl⟩
  have room : caller.registers.sp ≤ 15 := by omega
  have within : Within {} caller called [.tick, .tick] := by
    refine ⟨by simp, fun earlier he => ?_⟩
    simp only [List.prefix_cons_iff, List.prefix_nil] at he
    rcases he with rfl | ⟨_, rfl, rfl | ⟨_, rfl, rfl⟩⟩
    · rw [run_nil]
      omega
    · omega
    · omega
  have returns := (call_returns (fun _ => 0) [.write 0x200 program]).2 _ fetched reads room
  have back := (returns.back _ .tick within nofun (hsp₄.trans hsp.symm).le).2
  refine ⟨⟨_, fetched, reads⟩, room, within, returns.saved _ within, back.pc.trans ?_⟩
  rw [hpc]
  rfl

end Chip8.Interpreter
