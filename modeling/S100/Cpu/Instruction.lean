import S100.Cpu.Registers

/-!
# The instruction set

An instruction is named by one byte, and up to two operand bytes follow it
in memory. `Instruction` lists what the processor can be told to do;
`opcodeMap` is the data sheet's map of the 256 opcodes, sixteen to a row,
and `decode` reads it.

Twelve opcodes name nothing (`undefined`). The processor passes over them;
that they were met is reported.

`operandBytes` says how many bytes follow an opcode. `undefined_iff` lists
the opcodes without a meaning.
-/

namespace S100

/-- An operand of one byte: a register, or the memory byte that H and L
point to. -/
inductive Operand where
  | reg (register : Register)
  | mem
deriving DecidableEq, Repr

namespace Operand

@[match_pattern] abbrev a : Operand := reg .a
@[match_pattern] abbrev b : Operand := reg .b
@[match_pattern] abbrev c : Operand := reg .c
@[match_pattern] abbrev d : Operand := reg .d
@[match_pattern] abbrev e : Operand := reg .e
@[match_pattern] abbrev h : Operand := reg .h
@[match_pattern] abbrev l : Operand := reg .l

end Operand

/-- A test of one flag, set or clear. -/
inductive Condition where
  | nz | z | nc | c | po | pe | p | m
deriving DecidableEq, Repr

/-- The eight operations on the accumulator. -/
inductive Operation where
  | add | adc | sub | sbb | ana | xra | ora | cmp
deriving DecidableEq, Repr

inductive Instruction where
  -- control
  | nop
  | hlt
  | di
  | ei
  -- moves
  | mov (target source : Operand)
  | mvi (target : Operand)
  | lxi (target : WordRegister)
  | stax (pointer : Pair)
  | ldax (pointer : Pair)
  | sta
  | lda
  | shld
  | lhld
  | xchg
  -- arithmetic and logic
  | alu (operation : Operation) (source : Operand)
  | aluImmediate (operation : Operation)
  | inr (target : Operand)
  | dcr (target : Operand)
  | daa
  | inx (target : WordRegister)
  | dcx (target : WordRegister)
  | dad (source : WordRegister)
  -- rotations and carry
  | rlc
  | rrc
  | ral
  | rar
  | cma
  | stc
  | cmc
  -- jumps, calls and returns
  | jmp
  | jumpIf (condition : Condition)
  | call
  | callIf (condition : Condition)
  | ret
  | retIf (condition : Condition)
  | rst (vector : Fin 8)
  | pchl
  -- stack
  | push (pair : Pair)
  | pop (pair : Pair)
  | xthl
  | sphl
  -- ports
  | input
  | output
  | undefined
deriving DecidableEq, Repr

namespace Instruction

/-- The opcode map. A comment before each row of sixteen gives its first
opcode. -/
def opcodeMap : Array Instruction := #[
  -- 00
  .nop, .lxi .bc, .stax .bc, .inx .bc, .inr .b, .dcr .b, .mvi .b, .rlc,
  .undefined, .dad .bc, .ldax .bc, .dcx .bc, .inr .c, .dcr .c, .mvi .c, .rrc,
  -- 10
  .undefined, .lxi .de, .stax .de, .inx .de, .inr .d, .dcr .d, .mvi .d, .ral,
  .undefined, .dad .de, .ldax .de, .dcx .de, .inr .e, .dcr .e, .mvi .e, .rar,
  -- 20
  .undefined, .lxi .hl, .shld, .inx .hl, .inr .h, .dcr .h, .mvi .h, .daa,
  .undefined, .dad .hl, .lhld, .dcx .hl, .inr .l, .dcr .l, .mvi .l, .cma,
  -- 30
  .undefined, .lxi .sp, .sta, .inx .sp, .inr .mem, .dcr .mem, .mvi .mem,
  .stc, .undefined, .dad .sp, .lda, .dcx .sp, .inr .a, .dcr .a, .mvi .a,
  .cmc,
  -- 40
  .mov .b .b, .mov .b .c, .mov .b .d, .mov .b .e, .mov .b .h, .mov .b .l,
  .mov .b .mem, .mov .b .a, .mov .c .b, .mov .c .c, .mov .c .d, .mov .c .e,
  .mov .c .h, .mov .c .l, .mov .c .mem, .mov .c .a,
  -- 50
  .mov .d .b, .mov .d .c, .mov .d .d, .mov .d .e, .mov .d .h, .mov .d .l,
  .mov .d .mem, .mov .d .a, .mov .e .b, .mov .e .c, .mov .e .d, .mov .e .e,
  .mov .e .h, .mov .e .l, .mov .e .mem, .mov .e .a,
  -- 60
  .mov .h .b, .mov .h .c, .mov .h .d, .mov .h .e, .mov .h .h, .mov .h .l,
  .mov .h .mem, .mov .h .a, .mov .l .b, .mov .l .c, .mov .l .d, .mov .l .e,
  .mov .l .h, .mov .l .l, .mov .l .mem, .mov .l .a,
  -- 70
  .mov .mem .b, .mov .mem .c, .mov .mem .d, .mov .mem .e, .mov .mem .h,
  .mov .mem .l, .hlt, .mov .mem .a, .mov .a .b, .mov .a .c, .mov .a .d,
  .mov .a .e, .mov .a .h, .mov .a .l, .mov .a .mem, .mov .a .a,
  -- 80
  .alu .add .b, .alu .add .c, .alu .add .d, .alu .add .e, .alu .add .h,
  .alu .add .l, .alu .add .mem, .alu .add .a, .alu .adc .b, .alu .adc .c,
  .alu .adc .d, .alu .adc .e, .alu .adc .h, .alu .adc .l, .alu .adc .mem,
  .alu .adc .a,
  -- 90
  .alu .sub .b, .alu .sub .c, .alu .sub .d, .alu .sub .e, .alu .sub .h,
  .alu .sub .l, .alu .sub .mem, .alu .sub .a, .alu .sbb .b, .alu .sbb .c,
  .alu .sbb .d, .alu .sbb .e, .alu .sbb .h, .alu .sbb .l, .alu .sbb .mem,
  .alu .sbb .a,
  -- A0
  .alu .ana .b, .alu .ana .c, .alu .ana .d, .alu .ana .e, .alu .ana .h,
  .alu .ana .l, .alu .ana .mem, .alu .ana .a, .alu .xra .b, .alu .xra .c,
  .alu .xra .d, .alu .xra .e, .alu .xra .h, .alu .xra .l, .alu .xra .mem,
  .alu .xra .a,
  -- B0
  .alu .ora .b, .alu .ora .c, .alu .ora .d, .alu .ora .e, .alu .ora .h,
  .alu .ora .l, .alu .ora .mem, .alu .ora .a, .alu .cmp .b, .alu .cmp .c,
  .alu .cmp .d, .alu .cmp .e, .alu .cmp .h, .alu .cmp .l, .alu .cmp .mem,
  .alu .cmp .a,
  -- C0
  .retIf .nz, .pop .bc, .jumpIf .nz, .jmp, .callIf .nz, .push .bc,
  .aluImmediate .add, .rst 0, .retIf .z, .ret, .jumpIf .z, .undefined,
  .callIf .z, .call, .aluImmediate .adc, .rst 1,
  -- D0
  .retIf .nc, .pop .de, .jumpIf .nc, .output, .callIf .nc, .push .de,
  .aluImmediate .sub, .rst 2, .retIf .c, .undefined, .jumpIf .c, .input,
  .callIf .c, .undefined, .aluImmediate .sbb, .rst 3,
  -- E0
  .retIf .po, .pop .hl, .jumpIf .po, .xthl, .callIf .po, .push .hl,
  .aluImmediate .ana, .rst 4, .retIf .pe, .pchl, .jumpIf .pe, .xchg,
  .callIf .pe, .undefined, .aluImmediate .xra, .rst 5,
  -- F0
  .retIf .p, .pop .psw, .jumpIf .p, .di, .callIf .p, .push .psw,
  .aluImmediate .ora, .rst 6, .retIf .m, .sphl, .jumpIf .m, .ei, .callIf .m,
  .undefined, .aluImmediate .cmp, .rst 7]

set_option maxRecDepth 2000 in
@[simp] theorem size_opcodeMap : opcodeMap.size = 256 := rfl

/-- The instruction that an opcode names. -/
def decode (opcode : UInt8) : Instruction :=
  have : opcode.toNat < opcodeMap.size := by simpa using opcode.toNat_lt
  opcodeMap[opcode.toNat]

/-- What holds all along the map holds of every opcode with its
instruction. -/
theorem all_decode {p : Nat → Instruction → Bool}
    (h : (opcodeMap.toList.zipIdx.all fun (i, n) => p n i) = true)
    (opcode : UInt8) : p opcode.toNat (decode opcode) = true := by
  have hlt : opcode.toNat < opcodeMap.toList.length := by
    rw [Array.length_toList, size_opcodeMap]
    exact opcode.toNat_lt
  refine List.all_eq_true.mp h (decode opcode, opcode.toNat) ?_
  exact List.mk_mem_zipIdx_iff_getElem?.mpr (List.getElem?_eq_getElem hlt)

/-- How many bytes follow the opcode. -/
def operandBytes : Instruction → Nat
  | mvi _ | aluImmediate _ | input | output => 1
  | lxi _ | sta | lda | shld | lhld | jmp | jumpIf _ | call | callIf _ => 2
  | _ => 0

/-- The opcodes without a meaning. -/
theorem undefined_iff (opcode : UInt8) :
    decode opcode = undefined ↔
      opcode.toNat ∈ [0x08, 0x10, 0x18, 0x20, 0x28, 0x30, 0x38, 0xCB, 0xD9,
        0xDD, 0xED, 0xFD] := by
  refine of_decide_eq_true (all_decode (p := fun n i => decide (i = undefined ↔
    n ∈ [0x08, 0x10, 0x18, 0x20, 0x28, 0x30, 0x38, 0xCB, 0xD9, 0xDD, 0xED,
      0xFD])) ?_ opcode)
  decide +kernel

end Instruction

end S100
