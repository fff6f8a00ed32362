import S100.Proofs.Cpu.View

/-!
# Each instruction, as the reference sees it

For each kind of instruction one statement: what is seen of the processor
and its plant after it, in terms of what was seen before. The statements
are grouped as the instruction set is. Where an instruction changes the
carry alone, or pushes the flags, the unused bits of the flags byte have to
be clear.
-/

namespace S100

open Reference Instruction

namespace Cpu

variable {π : Type} {cpu : Cpu} {plant : Plant π} {s : State π}

/-! ## What happens inside the processor -/

theorem flags_apply_and_mask (operation : Operation) (a b : UInt8)
    (carry : Bool) :
    (operation.apply a b carry).flags &&& Flag.mask =
      (operation.apply a b carry).flags := by
  cases operation <;> exact flagsByte_and_mask _ _ _ _ _

theorem view_operate (h : cpu.view plant = s) (value : UInt8) {y : Nat}
    (hy : y < 8) :
    (cpu.operate (operationAt y) value).view plant =
      s.operate y value.toNat := by
  have hnumbers := numbers_apply hy cpu.regs.a value
    (cpu.regs.hasFlag .carry)
  rw [toNat_a h, toNat_carry h] at hnumbers
  have hflags := view_setFlags h ((operationAt y).apply cpu.regs.a value
    (cpu.regs.hasFlag .carry)).flags
  rw [flags_apply_and_mask] at hflags
  simp only [State.operate, hnumbers, operate]
  by_cases hcmp : operationAt y = .cmp
  · rw [if_pos hcmp, if_pos hcmp, hflags, State.setRegister]
    show _ = { s.setFlags _ with
      register := Function.update s.register 7 (s.register 7) }
    rw [Function.update_eq_self]
    rfl
  · rw [if_neg hcmp, if_neg hcmp]
    exact view_setA hflags _

theorem view_setRotated (h : cpu.view plant = s)
    (hf : usedBits s.flags = s.flags) (a : UInt8) (carry : Bool) :
    (cpu.setRotated a carry).view plant =
      (s.setRegister 7 a.toNat).setCarry carry.toNat :=
  view_setCarry (view_setA h a) hf carry

theorem holds_view (h : cpu.view plant = s) {y : Nat} (hy : y < 8) :
    cpu.holds (conditionAt y) = condition y s.flags := by
  subst h
  exact holds_conditionAt cpu.regs.f hy

theorem view_jumpTo (h : cpu.view plant = s) (address : UInt16) :
    (cpu.jumpTo address).view plant = s.jump address.toNat := by
  subst h
  rfl

theorem view_setPopped (h : cpu.view plant = s) (value : UInt16) {p : Nat}
    (hp : p < 4) :
    ({ cpu with regs := cpu.regs.setPopped (pairAt p) value } : Cpu).view
        plant = s.setPopped p value.toNat := by
  rcases eq_of_lt_four hp with rfl | rfl | rfl | rfl
  · exact view_setWord h value (p := 0) (by omega)
  · exact view_setWord h value (p := 1) (by omega)
  · exact view_setWord h value (p := 2) (by omega)
  · have hflags := view_setFlags (view_setA h (highByte value))
      (lowByte value)
    rw [toNat_and_mask, toNat_highByte, toNat_lowByte] at hflags
    exact hflags

theorem toNat_pushed (h : cpu.view plant = s)
    (hf : usedBits s.flags = s.flags) {p : Nat} (hp : p < 4) :
    (cpu.regs.pushed (pairAt p)).toNat = s.pushed p := by
  rcases eq_of_lt_four hp with rfl | rfl | rfl | rfl
  · exact toNat_getPair h (p := 0) (by omega)
  · exact toNat_getPair h (p := 1) (by omega)
  · exact toNat_getPair h (p := 2) (by omega)
  · subst h
    show (word cpu.regs.a (cpu.regs.f &&& Flag.mask ||| 0x02)).toNat =
      256 * cpu.regs.a.toNat + (cpu.regs.f.toNat + 2)
    rw [toNat_word, toNat_pushedFlags cpu.regs.f hf, Nat.mul_comm]

variable [PortDevice π]

/-! ## Moves -/

theorem after_mov (h : cpu.view plant = s) {y z : Nat} (hy : y < 8)
    (hz : z < 8) :
    after (cpu.execute (.mov (operandAt y) (operandAt z))) plant =
      s.setOperand y (s.operand z) := by
  obtain ⟨value, cpu', hrun, hvalue, h'⟩ := load_view h hz
  refine (after_bind hrun).trans ?_
  rw [after_store h' value hy, hvalue]

theorem after_mvi (h : cpu.view plant = s) {y : Nat} (hy : y < 8) :
    after (cpu.execute (.mvi (operandAt y))) plant =
      (s.skip 1).setOperand y (s.memory s.pc) := by
  obtain ⟨value, cpu', hrun, hvalue, h'⟩ := fetch_view h
  refine (after_bind hrun).trans ?_
  rw [after_store h' value hy, hvalue]

theorem after_lxi (h : cpu.view plant = s) {p : Nat} (hp : p < 4) :
    after (cpu.execute (.lxi (wordRegisterAt p))) plant =
      (s.skip 2).setPair p (s.word s.pc) := by
  obtain ⟨value, cpu', hrun, hvalue, h'⟩ := fetchWord_view h
  refine (after_bind hrun).trans ?_
  rw [← hvalue]
  exact view_setWord h' value hp

theorem after_stax (h : cpu.view plant = s) {p : Nat} (hp : p < 2) :
    after (cpu.execute (.stax (pairAt p))) plant =
      s.store (s.pair p) (s.register 7) := by
  have hwrite := after_writeAt h (cpu.regs.getPair (pairAt p)) cpu.regs.a
  rwa [toNat_getPair h (by omega), toNat_a h] at hwrite

theorem after_ldax (h : cpu.view plant = s) {p : Nat} (hp : p < 2) :
    after (cpu.execute (.ldax (pairAt p))) plant =
      s.setRegister 7 (s.memory (s.pair p)) := by
  obtain ⟨value, cpu', hrun, hvalue, h'⟩ :=
    readAt_view h (cpu.regs.getPair (pairAt p))
  rw [toNat_getPair h (by omega)] at hvalue
  refine (after_bind hrun).trans ?_
  rw [← hvalue]
  exact view_setA h' value

theorem after_sta (h : cpu.view plant = s) :
    after (cpu.execute .sta) plant =
      (s.skip 2).store (s.word s.pc) (s.register 7) := by
  obtain ⟨address, cpu', hrun, haddress, h'⟩ := fetchWord_view h
  refine (after_bind hrun).trans ?_
  rw [after_writeAt h', haddress, toNat_a h']
  rfl

theorem after_lda (h : cpu.view plant = s) :
    after (cpu.execute .lda) plant =
      (s.skip 2).setRegister 7 ((s.skip 2).memory (s.word s.pc)) := by
  obtain ⟨address, cpu₁, hrun₁, haddress, h₁⟩ := fetchWord_view h
  obtain ⟨value, cpu₂, hrun₂, hvalue, h₂⟩ := readAt_view h₁ address
  refine (after_bind hrun₁).trans ((after_bind hrun₂).trans ?_)
  rw [← haddress, ← hvalue]
  exact view_setA h₂ value

theorem after_shld (h : cpu.view plant = s) :
    after (cpu.execute .shld) plant =
      (s.skip 2).storeWord (s.word s.pc) ((s.skip 2).pair 2) := by
  obtain ⟨address, cpu', hrun, haddress, h'⟩ := fetchWord_view h
  refine (after_bind hrun).trans ?_
  rw [after_writeWordAt h', haddress, toNat_hl h']

theorem after_lhld (h : cpu.view plant = s) :
    after (cpu.execute .lhld) plant =
      (s.skip 2).setPair 2 ((s.skip 2).word (s.word s.pc)) := by
  obtain ⟨address, cpu₁, hrun₁, haddress, h₁⟩ := fetchWord_view h
  obtain ⟨value, cpu₂, hrun₂, hvalue, h₂⟩ := readWordAt_view h₁ address
  refine (after_bind hrun₁).trans ((after_bind hrun₂).trans ?_)
  rw [← haddress, ← hvalue]
  exact view_setWord h₂ value (p := 2) (by omega)

/-- Exchanging the pairs is putting each in the other's place. -/
theorem after_xchg (h : cpu.view plant = s) :
    after (cpu.execute .xchg) plant =
      (s.setPair 1 (s.pair 2)).setPair 2 (s.pair 1) := by
  have hde := view_setWord h cpu.regs.hl (p := 1) (by omega)
  have hhl := view_setWord hde (cpu.regs.getPair .de) (p := 2) (by omega)
  have hpair : (cpu.regs.getPair .de).toNat = s.pair 1 :=
    toNat_getPair h (p := 1) (by omega)
  rw [toNat_hl h, hpair] at hhl
  rw [← hhl]
  simp only [wordRegisterAt, Registers.setWord, Registers.setPair,
    Registers.hl, Registers.getPair, highByte_word, lowByte_word]
  rfl

/-! ## Arithmetic on bytes -/

theorem after_alu (h : cpu.view plant = s) {y z : Nat} (hy : y < 8)
    (hz : z < 8) :
    after (cpu.execute (.alu (operationAt y) (operandAt z))) plant =
      s.operate y (s.operand z) := by
  obtain ⟨value, cpu', hrun, hvalue, h'⟩ := load_view h hz
  refine (after_bind hrun).trans ?_
  rw [← hvalue]
  exact view_operate h' value hy

theorem after_aluImmediate (h : cpu.view plant = s) {y : Nat} (hy : y < 8) :
    after (cpu.execute (.aluImmediate (operationAt y))) plant =
      (s.skip 1).operate y (s.memory s.pc) := by
  obtain ⟨value, cpu', hrun, hvalue, h'⟩ := fetch_view h
  refine (after_bind hrun).trans ?_
  rw [← hvalue]
  exact view_operate h' value hy

theorem after_storeKeepingCarry (h : cpu.view plant = s) {y : Nat}
    (hy : y < 8) (value : UInt8) (auxCarry : Bool) :
    after (cpu.storeKeepingCarry (operandAt y)
        ⟨value, resultFlags value auxCarry false⟩) plant =
      (s.setFlags (flagsOf value.toNat auxCarry (s.flags % 2 = 1))).setOperand
        y value.toNat := by
  have hset := view_setFlags h
    (cpu.regs.f &&& Flag.carry.bit ||| resultFlags value auxCarry false)
  rw [toNat_keepingCarry] at hset
  have hstore := after_store hset value hy
  subst h
  exact hstore

theorem after_inr (h : cpu.view plant = s) {y : Nat} (hy : y < 8) :
    after (cpu.execute (.inr (operandAt y))) plant =
      (s.setFlags (flagsOf ((s.operand y + 1) % 256)
          (15 < s.operand y % 16 + 1) (s.flags % 2 = 1))).setOperand y
        ((s.operand y + 1) % 256) := by
  obtain ⟨value, cpu', hrun, hvalue, h'⟩ := load_view h hy
  have haux : ((value + 1).toNat % 16 == 0) =
      decide (15 < value.toNat % 16 + 1) := by
    rw [S100.toNat_add_one, beq_eq_decide]
    exact decide_eq_decide.mpr (by omega)
  refine (after_bind hrun).trans ?_
  simp only [Arithmetic.increment, haux]
  rw [after_storeKeepingCarry h' hy, S100.toNat_add_one, hvalue]

theorem after_dcr (h : cpu.view plant = s) {y : Nat} (hy : y < 8) :
    after (cpu.execute (.dcr (operandAt y))) plant =
      (s.setFlags (flagsOf ((s.operand y + 255) % 256)
          (15 < s.operand y % 16 + 15) (s.flags % 2 = 1))).setOperand y
        ((s.operand y + 255) % 256) := by
  obtain ⟨value, cpu', hrun, hvalue, h'⟩ := load_view h hy
  have haux : ((value - 1).toNat % 16 != 15) =
      decide (15 < value.toNat % 16 + 15) := by
    rw [toNat_sub_one, bne, beq_eq_decide, ← decide_not]
    exact decide_eq_decide.mpr (by omega)
  refine (after_bind hrun).trans ?_
  simp only [Arithmetic.decrement, haux]
  rw [after_storeKeepingCarry h' hy, toNat_sub_one, hvalue]

/-! ## Arithmetic on words -/

theorem after_inx (h : cpu.view plant = s) {p : Nat} (hp : p < 4) :
    after (cpu.execute (.inx (wordRegisterAt p))) plant =
      s.setPair p ((s.pair p + 1) % 65536) := by
  have hset := view_setWord h (cpu.regs.getWord (wordRegisterAt p) + 1) hp
  rwa [toNat_add_one, toNat_getWord h hp] at hset

theorem after_dcx (h : cpu.view plant = s) {p : Nat} (hp : p < 4) :
    after (cpu.execute (.dcx (wordRegisterAt p))) plant =
      s.setPair p ((s.pair p + 65535) % 65536) := by
  have hset := view_setWord h (cpu.regs.getWord (wordRegisterAt p) - 1) hp
  rwa [UInt16.toNat_sub, Nat.add_comm, toNat_getWord h hp] at hset

theorem after_dad (h : cpu.view plant = s) (hf : usedBits s.flags = s.flags)
    {p : Nat} (hp : p < 4) :
    after (cpu.execute (.dad (wordRegisterAt p))) plant =
      (s.setPair 2 ((s.pair 2 + s.pair p) % 65536)).setCarry
        ((s.pair 2 + s.pair p) / 65536) := by
  have hhl := cpu.regs.hl.toNat_lt
  have hword := (cpu.regs.getWord (wordRegisterAt p)).toNat_lt
  have hcarry : (decide (0x10000 ≤ cpu.regs.hl.toNat
        + (cpu.regs.getWord (wordRegisterAt p)).toNat)).toNat =
      (cpu.regs.hl.toNat + (cpu.regs.getWord (wordRegisterAt p)).toNat)
        / 65536 := by
    by_cases hle : 0x10000 ≤ cpu.regs.hl.toNat
        + (cpu.regs.getWord (wordRegisterAt p)).toNat <;>
      simp only [hle, decide_true, decide_false, Bool.toNat_true,
        Bool.toNat_false] <;> omega
  have hsum := view_setWord h (UInt16.ofNat (cpu.regs.hl.toNat
    + (cpu.regs.getWord (wordRegisterAt p)).toNat)) (p := 2) (by omega)
  have hset := view_setCarry hsum hf (decide (0x10000 ≤ cpu.regs.hl.toNat
    + (cpu.regs.getWord (wordRegisterAt p)).toNat))
  rw [hcarry, UInt16.toNat_ofNat', toNat_hl h, toNat_getWord h hp] at hset
  rw [← hset, ← toNat_hl h, ← toNat_getWord h hp]
  rfl

/-! ## Accumulator and carry -/

theorem after_rlc (h : cpu.view plant = s)
    (hf : usedBits s.flags = s.flags) :
    after (cpu.execute .rlc) plant = s.accumulatorRow 0 := by
  have hset := view_setRotated h hf
    (cpu.regs.a <<< 1 ||| cpu.regs.a >>> 7) (decide (0x80 ≤ cpu.regs.a))
  rwa [toNat_rotateLeft, toNat_highBit, toNat_a h] at hset

theorem after_rrc (h : cpu.view plant = s)
    (hf : usedBits s.flags = s.flags) :
    after (cpu.execute .rrc) plant = s.accumulatorRow 1 := by
  have hset := view_setRotated h hf
    (cpu.regs.a >>> 1 ||| cpu.regs.a <<< 7) (cpu.regs.a % 2 == 1)
  rwa [toNat_rotateRight, toNat_lowBit, toNat_a h] at hset

theorem after_ral (h : cpu.view plant = s)
    (hf : usedBits s.flags = s.flags) :
    after (cpu.execute .ral) plant = s.accumulatorRow 2 := by
  have hset := view_setRotated h hf
    (cpu.regs.a <<< 1 ||| bif cpu.regs.hasFlag .carry then 0x01 else 0)
    (decide (0x80 ≤ cpu.regs.a))
  rwa [toNat_shiftLeft, toNat_highBit, toNat_a h, toNat_carry h] at hset

theorem after_rar (h : cpu.view plant = s)
    (hf : usedBits s.flags = s.flags) :
    after (cpu.execute .rar) plant = s.accumulatorRow 3 := by
  have hset := view_setRotated h hf
    (cpu.regs.a >>> 1 ||| bif cpu.regs.hasFlag .carry then 0x80 else 0)
    (cpu.regs.a % 2 == 1)
  rwa [toNat_shiftRight, toNat_lowBit, toNat_a h, toNat_carry h] at hset

theorem after_daa (h : cpu.view plant = s) :
    after (cpu.execute .daa) plant = s.accumulatorRow 4 := by
  have hnumbers := numbers_decimalAdjust cpu.regs.a cpu.regs.f
  have hset := view_setFlags (view_setA h
      (Arithmetic.decimalAdjust cpu.regs.a cpu.regs.f).value)
    (Arithmetic.decimalAdjust cpu.regs.a cpu.regs.f).flags
  have hmask : (Arithmetic.decimalAdjust cpu.regs.a cpu.regs.f).flags
      &&& Flag.mask =
      (Arithmetic.decimalAdjust cpu.regs.a cpu.regs.f).flags :=
    flagsByte_and_mask _ _ _ _ _
  subst h
  rw [hmask] at hset
  show _ = ((cpu.view plant).setFlags (decimal cpu.regs.a.toNat
      cpu.regs.f.toNat).2).setRegister 7
    (decimal cpu.regs.a.toNat cpu.regs.f.toNat).1
  rw [← hnumbers]
  exact hset

theorem after_cma (h : cpu.view plant = s) :
    after (cpu.execute .cma) plant = s.accumulatorRow 5 := by
  have hset := view_setA h (~~~cpu.regs.a)
  rwa [toNat_complement, toNat_a h] at hset

theorem after_cmc (h : cpu.view plant = s)
    (hf : usedBits s.flags = s.flags) :
    after (cpu.execute .cmc) plant = s.accumulatorRow 7 := by
  have hset := view_setCarry h hf (!cpu.regs.hasFlag .carry)
  have hnot : (!cpu.regs.hasFlag .carry).toNat = 1 - s.flags % 2 := by
    rw [← toNat_carry h]
    cases cpu.regs.hasFlag .carry <;> rfl
  rwa [hnot] at hset

theorem after_accumulator (h : cpu.view plant = s)
    (hf : usedBits s.flags = s.flags) {y : Nat} (hy : y < 8) :
    after (cpu.execute (ofAccumulator y)) plant = s.accumulatorRow y := by
  rcases eq_of_lt_eight hy with rfl | rfl | rfl | rfl | rfl | rfl | rfl | rfl
  · exact after_rlc h hf
  · exact after_rrc h hf
  · exact after_ral h hf
  · exact after_rar h hf
  · exact after_daa h
  · exact after_cma h
  · exact view_setCarry h hf true
  · exact after_cmc h hf

/-! ## Jumps, calls and returns -/

theorem after_callTo (h : cpu.view plant = s) (address : UInt16) :
    after (cpu.callTo address) plant = s.call address.toNat := by
  have hpush := after_pushWord h cpu.regs.pc
  have hpc : cpu.regs.pc.toNat = s.pc := congrArg State.pc h
  have hjump := view_jumpTo hpush address
  rw [hpc] at hjump
  simp only [callTo, after, Dialogue.run_bind]
  exact hjump

theorem after_ret (h : cpu.view plant = s) :
    after cpu.ret plant = s.ret := by
  obtain ⟨address, cpu', hrun, haddress, h'⟩ := popWord_view h
  simp only [Cpu.ret, after_bind hrun]
  rw [State.ret, ← haddress]
  exact view_jumpTo h' address

theorem after_jmp (h : cpu.view plant = s) :
    after (cpu.execute .jmp) plant = s.jump (s.word s.pc) := by
  obtain ⟨address, cpu', hrun, haddress, h'⟩ := fetchWord_view h
  refine (after_bind hrun).trans ?_
  rw [← haddress]
  exact view_jumpTo h' address

theorem after_jumpIf (h : cpu.view plant = s) {y : Nat} (hy : y < 8) :
    after (cpu.execute (.jumpIf (conditionAt y))) plant =
      if condition y s.flags then s.jump (s.word s.pc) else s.skip 2 := by
  obtain ⟨address, cpu', hrun, haddress, h'⟩ := fetchWord_view h
  refine (after_bind hrun).trans ?_
  simp only [holds_view h' hy]
  rw [← haddress]
  show after (.done (if condition y s.flags then _ else _)) plant = _
  by_cases hc : condition y s.flags
  · rw [if_pos hc, if_pos hc]
    exact view_jumpTo h' address
  · rw [if_neg hc, if_neg hc]
    exact h'

theorem after_call (h : cpu.view plant = s) :
    after (cpu.execute .call) plant = (s.skip 2).call (s.word s.pc) := by
  obtain ⟨address, cpu', hrun, haddress, h'⟩ := fetchWord_view h
  refine (after_bind hrun).trans ?_
  rw [← haddress]
  exact after_callTo h' address

theorem after_callIf (h : cpu.view plant = s) {y : Nat} (hy : y < 8) :
    after (cpu.execute (.callIf (conditionAt y))) plant =
      if condition y s.flags then (s.skip 2).call (s.word s.pc)
      else s.skip 2 := by
  obtain ⟨address, cpu', hrun, haddress, h'⟩ := fetchWord_view h
  refine (after_bind hrun).trans ?_
  simp only [holds_view h' hy]
  rw [← haddress]
  by_cases hc : condition y s.flags
  · rw [if_pos hc]
    show after (if condition y s.flags then _ else _) plant = _
    rw [if_pos hc]
    exact after_callTo h' address
  · rw [if_neg hc]
    show after (if condition y s.flags then _ else _) plant = _
    rw [if_neg hc]
    exact h'

theorem after_retIf (h : cpu.view plant = s) {y : Nat} (hy : y < 8) :
    after (cpu.execute (.retIf (conditionAt y))) plant =
      if condition y s.flags then s.ret else s := by
  show after (if cpu.holds (conditionAt y) then cpu.ret else .done cpu) plant = _
  rw [holds_view h hy]
  by_cases hc : condition y s.flags
  · rw [if_pos hc, if_pos hc]
    exact after_ret h
  · rw [if_neg hc, if_neg hc]
    exact h

theorem after_rst (h : cpu.view plant = s) {y : Nat} (hy : y < 8) :
    after (cpu.execute (.rst ⟨y % 8, Nat.mod_lt y (by decide)⟩)) plant =
      s.call (8 * y) := by
  have haddress : (UInt16.ofNat (8 * (y % 8))).toNat = 8 * y := by
    rw [UInt16.toNat_ofNat']
    omega
  have hcall := after_callTo h (UInt16.ofNat (8 * (y % 8)))
  rwa [haddress] at hcall

theorem after_pchl (h : cpu.view plant = s) :
    after (cpu.execute .pchl) plant = s.jump (s.pair 2) := by
  rw [← toNat_hl h]
  exact view_jumpTo h cpu.regs.hl

/-! ## The stack -/

theorem after_push (h : cpu.view plant = s)
    (hf : usedBits s.flags = s.flags) {p : Nat} (hp : p < 4) :
    after (cpu.execute (.push (pairAt p))) plant = s.push (s.pushed p) := by
  rw [← toNat_pushed h hf hp]
  exact after_pushWord h _

theorem after_pop (h : cpu.view plant = s) {p : Nat} (hp : p < 4) :
    after (cpu.execute (.pop (pairAt p))) plant =
      s.drop.setPopped p (s.word s.sp) := by
  obtain ⟨value, cpu', hrun, hvalue, h'⟩ := popWord_view h
  refine (after_bind hrun).trans ?_
  rw [← hvalue]
  exact view_setPopped h' value hp

theorem after_xthl (h : cpu.view plant = s) :
    after (cpu.execute .xthl) plant =
      (s.storeWord s.sp (s.pair 2)).setPair 2 (s.word s.sp) := by
  obtain ⟨value, cpu', hrun, hvalue, h'⟩ := readWordAt_view h cpu.regs.sp
  have hsp : cpu.regs.sp.toNat = s.sp := congrArg State.sp h
  have hsp' : cpu'.regs.sp.toNat = s.sp := congrArg State.sp h'
  have hwrite := after_writeWordAt h' cpu'.regs.sp cpu'.regs.hl
  rw [hsp', toNat_hl h'] at hwrite
  have hset := view_setWord hwrite value (p := 2) (by omega)
  rw [hvalue, hsp] at hset
  refine (after_bind hrun).trans ?_
  simp only [after, Dialogue.run_bind]
  exact hset

theorem after_sphl (h : cpu.view plant = s) :
    after (cpu.execute .sphl) plant = { s with sp := s.pair 2 } := by
  rw [← toNat_hl h]
  exact view_setWord h cpu.regs.hl (p := 3) (by omega)

/-! ## Ports -/

theorem after_input (h : cpu.view plant = s) :
    after (cpu.execute .input) plant =
      (s.skip 1).input (s.memory s.pc) := by
  obtain ⟨port, cpu', hrun, hport, h'⟩ := fetch_view h
  refine (after_bind hrun).trans ?_
  rw [← hport, ← h', State.input, UInt8.ofNat_toNat]
  have hports : cpu'.view
      { plant with ports := (PortDevice.input plant.ports port).2 } =
      { cpu'.view plant with
        ports := (PortDevice.input plant.ports port).2 } := rfl
  exact view_setA hports (PortDevice.input plant.ports port).1

theorem after_output (h : cpu.view plant = s) :
    after (cpu.execute .output) plant =
      (s.skip 1).output (s.memory s.pc) := by
  obtain ⟨port, cpu', hrun, hport, h'⟩ := fetch_view h
  refine (after_bind hrun).trans ?_
  rw [← hport, State.output, ← toNat_a h', UInt8.ofNat_toNat,
    UInt8.ofNat_toNat, ← h']
  rfl

end Cpu

end S100
