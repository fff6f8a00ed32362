import S100.Proofs.Cpu.Arithmetic

/-!
# The processor as the reference sees it

`Cpu.view` takes a processor and its plant to a state of the reference. It
leaves out what is only there to be looked at: the lights and the last
opcode.

Everything an instruction is put together from is then given by what it
does to the view: taking bytes from the program and from memory
(`fetch_view`, `load_view`, `popWord_view`, ...), and putting registers,
flags and memory in another state (`view_store`, `view_pushWord`, ...).
The first kind leaves the plant alone and gives a value, so each of its
statements names the processor that is left. Nothing else about that
processor is ever needed than its view.
-/

namespace S100

open Reference

variable {π : Type}

/-- The registers in the order of their numbers. -/
def Registers.table (r : Registers) : Nat → Nat
  | 0 => r.b.toNat
  | 1 => r.c.toNat
  | 2 => r.d.toNat
  | 3 => r.e.toNat
  | 4 => r.h.toNat
  | 5 => r.l.toNat
  | 7 => r.a.toNat
  | _ => 0

namespace Cpu

def view (cpu : Cpu) (plant : Plant π) : State π where
  register := cpu.regs.table
  flags := cpu.regs.f.toNat
  sp := cpu.regs.sp.toNat
  pc := cpu.regs.pc.toNat
  interruptsEnabled := cpu.interruptsEnabled
  halted := cpu.halted
  memory := fun address => (byteAt plant.memory.bytes address).toNat
  size := plant.memory.size
  ports := plant.ports
  sent := plant.sent

/-- Nothing but the lights and the last opcode is out of view. -/
theorem view_eq_view_iff {cpu cpu' : Cpu} {plant plant' : Plant π} :
    cpu.view plant = cpu'.view plant' ↔
      cpu.regs = cpu'.regs ∧ cpu.interruptsEnabled = cpu'.interruptsEnabled
        ∧ cpu.halted = cpu'.halted ∧ plant = plant' := by
  constructor
  · intro h
    have hregister : ∀ i, cpu.regs.table i = cpu'.regs.table i :=
      congrFun (congrArg State.register h)
    have hmemory : ∀ i, (byteAt plant.memory.bytes i).toNat =
        (byteAt plant'.memory.bytes i).toNat :=
      congrFun (congrArg State.memory h)
    have hsize : plant.memory.bytes.size = plant'.memory.bytes.size :=
      congrArg State.size h
    have hregs : cpu.regs = cpu'.regs := by
      obtain ⟨⟨a, f, b, c, d, e, h, l, sp, pc⟩, _, _, _, _⟩ := cpu
      obtain ⟨⟨a', f', b', c', d', e', h', l', sp', pc'⟩, _, _, _, _⟩ := cpu'
      rw [Registers.mk.injEq]
      exact ⟨UInt8.toNat_inj.mp (hregister 7),
        UInt8.toNat_inj.mp (congrArg State.flags h),
        UInt8.toNat_inj.mp (hregister 0), UInt8.toNat_inj.mp (hregister 1),
        UInt8.toNat_inj.mp (hregister 2), UInt8.toNat_inj.mp (hregister 3),
        UInt8.toNat_inj.mp (hregister 4), UInt8.toNat_inj.mp (hregister 5),
        UInt16.toNat_inj.mp (congrArg State.sp h),
        UInt16.toNat_inj.mp (congrArg State.pc h)⟩
    have hbytes : plant.memory.bytes = plant'.memory.bytes := by
      refine Array.ext hsize fun i hi hi' => ?_
      have hbyte := UInt8.toNat_inj.mp (hmemory i)
      rwa [byteAt_of_lt hi, byteAt_of_lt hi'] at hbyte
    refine ⟨hregs, congrArg State.interruptsEnabled h,
      congrArg State.halted h, ?_⟩
    obtain ⟨⟨bytes, _⟩, ports, sent⟩ := plant
    obtain ⟨⟨bytes', _⟩, ports', sent'⟩ := plant'
    obtain rfl : bytes = bytes' := hbytes
    obtain rfl : ports = ports' := congrArg State.ports h
    obtain rfl : sent = sent' := congrArg State.sent h
    rfl
  · rintro ⟨hregs, hinterrupts, hhalted, rfl⟩
    simp only [view, hregs, hinterrupts, hhalted]

/-! ## Registers and memory -/

variable {cpu : Cpu} {plant : Plant π} {s : State π}

theorem toNat_read (h : cpu.view plant = s) (address : UInt16) :
    (plant.memory.read address).toNat = s.memory address.toNat := by
  subst h
  rfl

theorem toNat_get (h : cpu.view plant = s) {y : Nat} (hy : y < 8)
    (hm : y ≠ 6) :
    (cpu.regs.get (Instruction.registerAt y)).toNat = s.register y := by
  subst h
  rcases eq_of_lt_eight hy with rfl | rfl | rfl | rfl | rfl | rfl | rfl | rfl
  all_goals first | rfl | exact absurd rfl hm

theorem toNat_a (h : cpu.view plant = s) : cpu.regs.a.toNat = s.register 7 := by
  subst h
  rfl

theorem toNat_getWord (h : cpu.view plant = s) {p : Nat} (hp : p < 4) :
    (cpu.regs.getWord (Instruction.wordRegisterAt p)).toNat = s.pair p := by
  subst h
  have hword (high low : UInt8) :
      (word high low).toNat = 256 * high.toNat + low.toNat := by
    rw [toNat_word, Nat.mul_comm]
  rcases eq_of_lt_four hp with rfl | rfl | rfl | rfl
  · exact hword cpu.regs.b cpu.regs.c
  · exact hword cpu.regs.d cpu.regs.e
  · exact hword cpu.regs.h cpu.regs.l
  · rfl

theorem toNat_hl (h : cpu.view plant = s) : cpu.regs.hl.toNat = s.pair 2 :=
  toNat_getWord h (p := 2) (by omega)

theorem toNat_getPair (h : cpu.view plant = s) {p : Nat} (hp : p < 3) :
    (cpu.regs.getPair (Instruction.pairAt p)).toNat = s.pair p := by
  have hword := toNat_getWord h (p := p) (by omega)
  obtain rfl | rfl | rfl : p = 0 ∨ p = 1 ∨ p = 2 := by omega
  all_goals exact hword

theorem toNat_carry (h : cpu.view plant = s) :
    (cpu.regs.hasFlag .carry).toNat = s.flags % 2 := by
  subst h
  rw [Registers.hasFlag, isSet_carry]
  show _ = cpu.regs.f.toNat % 2
  rcases Nat.mod_two_eq_zero_or_one cpu.regs.f.toNat with hf | hf <;>
    simp [hf]

theorem table_of_le {i : Nat} (h : 8 ≤ i) (r : Registers) : r.table i = 0 := by
  obtain ⟨k, rfl⟩ := Nat.exists_eq_add_of_le' h
  rfl

/-- Changing one register changes one place of the table. -/
theorem table_set (r : Registers) (value : UInt8) {y : Nat} (hy : y < 8)
    (hm : y ≠ 6) :
    (r.set (Instruction.registerAt y) value).table =
      Function.update r.table y value.toNat := by
  funext i
  by_cases hi : i = y
  · subst hi
    rw [Function.update_self]
    rcases eq_of_lt_eight hy with rfl | rfl | rfl | rfl | rfl | rfl | rfl | rfl
    all_goals first | rfl | exact absurd rfl hm
  · rw [Function.update_of_ne hi]
    by_cases hlt : i < 8
    · rcases eq_of_lt_eight hy with
        rfl | rfl | rfl | rfl | rfl | rfl | rfl | rfl <;>
      rcases eq_of_lt_eight hlt with
        rfl | rfl | rfl | rfl | rfl | rfl | rfl | rfl
      all_goals first | rfl | exact absurd rfl hi | exact absurd rfl hm
    · rw [table_of_le (by omega), table_of_le (by omega)]

theorem view_set (h : cpu.view plant = s) (value : UInt8) {y : Nat}
    (hy : y < 8) (hm : y ≠ 6) :
    ({ cpu with regs := cpu.regs.set (Instruction.registerAt y) value }
      : Cpu).view plant = s.setRegister y value.toNat := by
  subst h
  simp only [view, State.setRegister, table_set _ _ hy hm]
  cases Instruction.registerAt y <;> rfl

theorem view_setA (h : cpu.view plant = s) (value : UInt8) :
    ({ cpu with regs.a := value } : Cpu).view plant =
      s.setRegister 7 value.toNat :=
  view_set h value (y := 7) (by omega) (by omega)

theorem view_setWord (h : cpu.view plant = s) (value : UInt16) {p : Nat}
    (hp : p < 4) :
    ({ cpu with
        regs := cpu.regs.setWord (Instruction.wordRegisterAt p) value }
      : Cpu).view plant = s.setPair p value.toNat := by
  have hhigh := toNat_highByte value
  have hlow := toNat_lowByte value
  rcases eq_of_lt_four hp with rfl | rfl | rfl | rfl
  · have hb := view_set h (highByte value) (y := 0) (by omega) (by omega)
    have hc := view_set hb (lowByte value) (y := 1) (by omega) (by omega)
    rwa [hhigh, hlow] at hc
  · have hd := view_set h (highByte value) (y := 2) (by omega) (by omega)
    have he := view_set hd (lowByte value) (y := 3) (by omega) (by omega)
    rwa [hhigh, hlow] at he
  · have hh := view_set h (highByte value) (y := 4) (by omega) (by omega)
    have hl := view_set hh (lowByte value) (y := 5) (by omega) (by omega)
    rwa [hhigh, hlow] at hl
  · subst h
    rfl

theorem view_setFlags (h : cpu.view plant = s) (flags : UInt8) :
    ({ cpu with regs := cpu.regs.setFlags flags } : Cpu).view plant =
      s.setFlags (flags &&& Flag.mask).toNat := by
  subst h
  rfl

theorem view_setCarry (h : cpu.view plant = s)
    (hf : usedBits s.flags = s.flags) (carry : Bool) :
    ({ cpu with regs := cpu.regs.setCarry carry } : Cpu).view plant =
      s.setCarry carry.toNat := by
  subst h
  exact congrArg (State.setFlags (cpu.view plant))
    (toNat_settingCarry cpu.regs.f carry hf)

theorem byteAt_write (m : Memory) (address : UInt16) (value : UInt8)
    (i : Nat) :
    byteAt (m.write address value).bytes i =
      if address.toNat = i ∧ i < m.size then value else byteAt m.bytes i := by
  simp only [byteAt, Memory.write, Memory.size, Array.getElem?_setIfInBounds]
  by_cases hi : address.toNat = i
  · subst hi
    by_cases hs : address.toNat < m.bytes.size <;> simp [hs]
  · simp [hi]

theorem view_write (h : cpu.view plant = s) (address : UInt16)
    (value : UInt8) :
    cpu.view { plant with memory := plant.memory.write address value } =
      s.store address.toNat value.toNat := by
  subst h
  have hsize : (plant.memory.write address value).size = plant.memory.size :=
    Memory.size_write _ _ _
  by_cases hs : address.toNat < (cpu.view plant).size
  · have hmemory : (fun i =>
        (byteAt (plant.memory.write address value).bytes i).toNat) =
        Function.update (cpu.view plant).memory address.toNat value.toNat := by
      funext i
      rw [byteAt_write, Function.update_apply]
      by_cases hi : i = address.toNat
      · rw [if_pos ⟨hi.symm, hi ▸ hs⟩, if_pos hi]
      · rw [if_neg (fun hc => hi hc.1.symm), if_neg hi]
        rfl
    rw [State.store, if_pos hs, ← hmemory]
    simp only [view, hsize]
  · have hmemory : (fun i =>
        (byteAt (plant.memory.write address value).bytes i).toNat) =
        (cpu.view plant).memory := by
      funext i
      have hne : ¬(address.toNat = i ∧ i < plant.memory.size) := by
        rintro ⟨rfl, hlt⟩
        exact hs hlt
      rw [byteAt_write, if_neg hne]
      rfl
    rw [State.store, if_neg hs]
    simp only [view, hsize, hmemory]

/-! ## Taking values -/

variable [PortDevice π]

theorem readAt_view (h : cpu.view plant = s) (address : UInt16) :
    ∃ data cpu', (cpu.readAt address).run plant = ((data, cpu'), plant)
      ∧ data.toNat = s.memory address.toNat ∧ cpu'.view plant = s :=
  ⟨_, _, rfl, toNat_read h address, h⟩

theorem toNat_add_one (w : UInt16) : (w + 1).toNat = (w.toNat + 1) % 65536 :=
  UInt16.toNat_add w 1

theorem toNat_word_eq (high low : UInt8) :
    (word high low).toNat = low.toNat + 256 * high.toNat := by
  rw [toNat_word]
  omega

theorem readWordAt_view (h : cpu.view plant = s) (address : UInt16) :
    ∃ value cpu', (cpu.readWordAt address).run plant = ((value, cpu'), plant)
      ∧ value.toNat = s.word address.toNat ∧ cpu'.view plant = s := by
  refine ⟨_, _, rfl, ?_, h⟩
  rw [toNat_word_eq]
  show (plant.memory.read address).toNat
    + 256 * (plant.memory.read (address + 1)).toNat = _
  rw [toNat_read h, toNat_read h, toNat_add_one]
  rfl

theorem fetch_view (h : cpu.view plant = s) :
    ∃ data cpu', cpu.fetch.run plant = ((data, cpu'), plant)
      ∧ data.toNat = s.memory s.pc ∧ cpu'.view plant = s.skip 1 := by
  subst h
  exact ⟨_, _, rfl, rfl,
    congrArg (State.jump (cpu.view plant)) (toNat_add_one cpu.regs.pc)⟩

theorem fetchWord_view (h : cpu.view plant = s) :
    ∃ value cpu', cpu.fetchWord.run plant = ((value, cpu'), plant)
      ∧ value.toNat = s.word s.pc ∧ cpu'.view plant = s.skip 2 := by
  obtain ⟨low, cpu₁, hrun₁, hlow, h₁⟩ := fetch_view h
  obtain ⟨high, cpu₂, hrun₂, hhigh, h₂⟩ := fetch_view h₁
  refine ⟨word high low, cpu₂, ?_, ?_, ?_⟩
  · simp only [fetchWord, Dialogue.run_bind, hrun₁, hrun₂]
    rfl
  · rw [toNat_word_eq, hlow, hhigh]
    rfl
  · rw [h₂]
    simp only [State.skip, Nat.mod_add_mod, Nat.add_assoc]

theorem popWord_view (h : cpu.view plant = s) :
    ∃ value cpu', cpu.popWord.run plant = ((value, cpu'), plant)
      ∧ value.toNat = s.word s.sp ∧ cpu'.view plant = s.drop := by
  obtain ⟨value, cpu', hrun, hvalue, h'⟩ := readWordAt_view h cpu.regs.sp
  have hsp : cpu.regs.sp.toNat = s.sp := congrArg State.sp h
  refine ⟨value, { cpu' with regs.sp := cpu.regs.sp + 2 }, ?_, ?_, ?_⟩
  · simp only [popWord, Dialogue.run_bind, hrun]
    rfl
  · rw [hvalue, hsp]
  · have hset := view_setWord h' (cpu.regs.sp + 2) (p := 3) (by omega)
    rw [UInt16.toNat_add, hsp] at hset
    exact hset

theorem load_view (h : cpu.view plant = s) {y : Nat} (hy : y < 8) :
    ∃ value cpu', (cpu.load (Instruction.operandAt y)).run plant =
        ((value, cpu'), plant)
      ∧ value.toNat = s.operand y ∧ cpu'.view plant = s := by
  by_cases hm : y = 6
  · subst hm
    obtain ⟨value, cpu', hrun, hvalue, h'⟩ := readAt_view h cpu.regs.hl
    refine ⟨value, cpu', hrun, ?_, h'⟩
    rw [hvalue, toNat_hl h]
    rfl
  · refine ⟨cpu.regs.get (Instruction.registerAt y), cpu, ?_, ?_, h⟩
    · rw [Instruction.operandAt, if_neg hm]
      rfl
    · rw [State.operand, if_neg hm, toNat_get h hy hm]

/-! ## Storing -/

/-- What the reference sees once a dialogue has been held. -/
def after (d : Dialogue Cpu) (plant : Plant π) : State π :=
  (d.run plant).1.view (d.run plant).2

/-- A dialogue that starts by taking a value goes on with it. -/
theorem after_bind {α : Type} {d : Dialogue (α × Cpu)}
    {f : α × Cpu → Dialogue Cpu} {a : α} {plant' : Plant π}
    (hrun : d.run plant = ((a, cpu), plant')) :
    after (d >>= f) plant = after (f (a, cpu)) plant' := by
  simp only [after, Dialogue.run_bind, hrun]

theorem after_writeAt (h : cpu.view plant = s) (address : UInt16)
    (data : UInt8) :
    after (cpu.writeAt address data) plant =
      s.store address.toNat data.toNat :=
  view_write h address data

theorem after_writeWordAt (h : cpu.view plant = s) (address value : UInt16) :
    after (cpu.writeWordAt address value) plant =
      s.storeWord address.toNat value.toNat := by
  have hlow := view_write h address (lowByte value)
  have hboth := view_write hlow (address + 1) (highByte value)
  rw [toNat_add_one, toNat_lowByte, toNat_highByte] at hboth
  exact hboth

theorem after_pushWord (h : cpu.view plant = s) (value : UInt16) :
    after (cpu.pushWord value) plant = s.push value.toNat := by
  have hsp : cpu.regs.sp.toNat = s.sp := congrArg State.sp h
  have hone : (cpu.regs.sp - 1).toNat = (s.sp + 65535) % 65536 := by
    rw [UInt16.toNat_sub, hsp, Nat.add_comm]
    rfl
  have htwo : (cpu.regs.sp - 2).toNat = (s.sp + 65534) % 65536 := by
    rw [UInt16.toNat_sub, hsp, Nat.add_comm]
    rfl
  have hhigh := view_write h (cpu.regs.sp - 1) (highByte value)
  have hlow := view_write hhigh (cpu.regs.sp - 2) (lowByte value)
  have hset := view_setWord hlow (cpu.regs.sp - 2) (p := 3) (by omega)
  rw [hone, htwo, toNat_highByte, toNat_lowByte] at hset
  exact hset

theorem after_store (h : cpu.view plant = s) (value : UInt8) {y : Nat}
    (hy : y < 8) :
    after (cpu.store (Instruction.operandAt y) value) plant =
      s.setOperand y value.toNat := by
  by_cases hm : y = 6
  · subst hm
    have hstore := after_writeAt h cpu.regs.hl value
    rw [toNat_hl h] at hstore
    exact hstore
  · have hset := view_set h value hy hm
    rw [Instruction.operandAt, if_neg hm, State.setOperand, if_neg hm]
    exact hset

end Cpu

end S100
