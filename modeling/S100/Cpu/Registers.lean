import S100.Cpu.Flags

/-!
# The register file

Seven byte registers, the flags byte, and the two word registers. The byte
registers also act in pairs: B with C, D with E, H with L, and the
accumulator with the flags (the *processor status word*).

Each kind of operand field in the instruction set has a type of its own:
`Register` (one byte), `Pair` (what the stack instructions move), and
`WordRegister` (what word arithmetic works on, with the stack pointer in
place of the status word). For each, what is stored is what is read back
(`get_set`, `getPair_setPair`, `getWord_setWord`).

The flags byte is kept as it was stored. Only `setFlags` and the stack
clear its three meaningless bits, and `pushed` shows them the way the
silicon does: bit 1 high, bits 3 and 5 low.
-/

namespace S100

inductive Register where
  | a | b | c | d | e | h | l
deriving DecidableEq, Repr

inductive Pair where
  | bc | de | hl | psw
deriving DecidableEq, Repr

inductive WordRegister where
  | bc | de | hl | sp
deriving DecidableEq, Repr

structure Registers where
  a : UInt8 := 0
  f : UInt8 := 0
  b : UInt8 := 0
  c : UInt8 := 0
  d : UInt8 := 0
  e : UInt8 := 0
  h : UInt8 := 0
  l : UInt8 := 0
  sp : UInt16 := 0
  pc : UInt16 := 0
deriving DecidableEq, Repr

namespace Registers

/-! ## Bytes -/

def get (r : Registers) : Register → UInt8
  | .a => r.a
  | .b => r.b
  | .c => r.c
  | .d => r.d
  | .e => r.e
  | .h => r.h
  | .l => r.l

def set (r : Registers) (reg : Register) (value : UInt8) : Registers :=
  match reg with
  | .a => { r with a := value }
  | .b => { r with b := value }
  | .c => { r with c := value }
  | .d => { r with d := value }
  | .e => { r with e := value }
  | .h => { r with h := value }
  | .l => { r with l := value }

@[simp] theorem get_set (r : Registers) (reg : Register) (value : UInt8) :
    (r.set reg value).get reg = value := by
  cases reg <;> rfl

theorem get_set_of_ne (r : Registers) {reg other : Register} (value : UInt8)
    (h : other ≠ reg) : (r.set reg value).get other = r.get other := by
  cases reg <;> cases other <;> first | rfl | exact absurd rfl h

/-! ## Pairs -/

def getPair (r : Registers) : Pair → UInt16
  | .bc => word r.b r.c
  | .de => word r.d r.e
  | .hl => word r.h r.l
  | .psw => word r.a r.f

def setPair (r : Registers) (pair : Pair) (value : UInt16) : Registers :=
  match pair with
  | .bc => { r with b := highByte value, c := lowByte value }
  | .de => { r with d := highByte value, e := lowByte value }
  | .hl => { r with h := highByte value, l := lowByte value }
  | .psw => { r with a := highByte value, f := lowByte value }

@[simp] theorem getPair_setPair (r : Registers) (pair : Pair)
    (value : UInt16) : (r.setPair pair value).getPair pair = value := by
  cases pair <;> simp [setPair, getPair]

def setHigh (r : Registers) (pair : Pair) (value : UInt8) : Registers :=
  match pair with
  | .bc => { r with b := value }
  | .de => { r with d := value }
  | .hl => { r with h := value }
  | .psw => { r with a := value }

def setLow (r : Registers) (pair : Pair) (value : UInt8) : Registers :=
  match pair with
  | .bc => { r with c := value }
  | .de => { r with e := value }
  | .hl => { r with l := value }
  | .psw => { r with f := value }

/-- The address in H and L. -/
def hl (r : Registers) : UInt16 :=
  word r.h r.l

/-! ## Words -/

def getWord (r : Registers) : WordRegister → UInt16
  | .bc => r.getPair .bc
  | .de => r.getPair .de
  | .hl => r.getPair .hl
  | .sp => r.sp

def setWord (r : Registers) (reg : WordRegister) (value : UInt16) : Registers :=
  match reg with
  | .bc => r.setPair .bc value
  | .de => r.setPair .de value
  | .hl => r.setPair .hl value
  | .sp => { r with sp := value }

@[simp] theorem getWord_setWord (r : Registers) (reg : WordRegister)
    (value : UInt16) : (r.setWord reg value).getWord reg = value := by
  cases reg <;> simp [setWord, getWord]

/-! ## Flags -/

/-- Store a flags byte, without its meaningless bits. -/
def setFlags (r : Registers) (flags : UInt8) : Registers :=
  { r with f := flags &&& Flag.mask }

def hasFlag (r : Registers) (flag : Flag) : Bool :=
  flag.isSet r.f

/-- Set or clear the carry, keeping the other flags. -/
def setCarry (r : Registers) (carry : Bool) : Registers :=
  r.setFlags (bif carry then r.f ||| Flag.carry.bit
    else r.f &&& ~~~Flag.carry.bit)

/-! ## On the stack -/

/-- A pair as it goes onto the stack. -/
def pushed (r : Registers) : Pair → UInt16
  | .psw => word r.a (r.f &&& Flag.mask ||| 0x02)
  | pair => r.getPair pair

/-- Take a pair from the stack. -/
def setPopped (r : Registers) (pair : Pair) (value : UInt16) : Registers :=
  match pair with
  | .psw => { r with a := highByte value }.setFlags (lowByte value)
  | pair => r.setPair pair value

end Registers

end S100
