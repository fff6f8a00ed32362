import Mathlib.Logic.Function.Basic
import S100.Backplane

/-!
# Each card by itself

Many ports can be wired to one card, ports can be wired anew at any time, and
to read a port may change the card behind it. All the same the cards do not
get into each other's way: each goes on as if it were alone with its own calls
(`Dispatcher.projects`).

Nothing depends on what the cards are. A `Card.Device` is a card that answers
in any way whatever, and the `Dispatcher` is the ports with three of them. Which
calls a card gets is said by the wiring and by how the ports are used, and not
by what any card answers (`Wiring.calls`). The ports of the backplane are such a
dispatcher (`Ports.dispatcher`).
-/

namespace S100

/-- The cards that ports can be wired to. -/
inductive Card where
  | serial
  | panel
  | disks
deriving DecidableEq

namespace Card

/-- What a card can be asked to do through a port. -/
inductive Call : Card → Type where
  | ready : Call .serial
  | readByte : Call .serial
  | writeByte (byte : UInt8) : Call .serial
  | sense : Call .panel
  | select (value : UInt8) : Call .disks
  | status : Call .disks
  | command (value : UInt8) : Call .disks
  | querySector : Call .disks
  | writeData (value : UInt8) : Call .disks
  | readData : Call .disks

/-- What there is to answer. -/
def Call.Answer {k : Card} : Call k → Type
  | .ready => Bool
  | .readByte | .sense | .status | .querySector | .readData => UInt8
  | .writeByte _ | .select _ | .command _ | .writeData _ => Unit

/-- The byte that a port reads when the card behind it gives an answer. -/
def Call.told {k : Card} : (call : Call k) → call.Answer → Option UInt8
  | .ready, received => some (Devices.serialStatus received)
  | .readByte, byte | .sense, byte | .status, byte | .querySector, byte
  | .readData, byte => some byte
  | .writeByte _, _ | .select _, _ | .command _, _ | .writeData _, _ => none

/-- A card of a kind: what it answers, and what becomes of it. -/
class Device (k : Card) (σ : Type) where
  serve : σ → (call : Call k) → call.Answer × σ

section Alone

variable {k : Card} {σ : Type} [Device k σ]

/-- A card after some calls. -/
def serveAll (card : σ) (calls : List (Call k)) : σ :=
  calls.foldl (fun card call => (Device.serve card call).2) card

/-- The bytes that are read from a card by some calls, in their order. -/
def bytes (card : σ) : List (Call k) → List UInt8
  | [] => []
  | call :: rest =>
    let served := Device.serve card call
    (call.told served.1).toList ++ bytes served.2 rest

theorem serveAll_append (card : σ) (first rest : List (Call k)) :
    serveAll card (first ++ rest) = serveAll (serveAll card first) rest :=
  List.foldl_append

theorem bytes_append (card : σ) (first rest : List (Call k)) :
    bytes card (first ++ rest) =
      bytes card first ++ bytes (serveAll card first) rest := by
  induction first generalizing card with
  | nil => rfl
  | cons call first ih =>
      show _ ++ bytes _ (first ++ rest) = _
      rw [ih, ← List.append_assoc]
      rfl

end Alone

end Card

open Card (Call Device)

namespace PortFunction

def card : PortFunction → Card
  | terminalStatus | terminalData => .serial
  | senseSwitches => .panel
  | diskSelectStatus | diskFunctionSector | diskData => .disks

/-- What a card is called to do when a port is read. -/
def reading : (function : PortFunction) → Call function.card
  | terminalStatus => .ready
  | terminalData => .readByte
  | senseSwitches => .sense
  | diskSelectStatus => .status
  | diskFunctionSector => .querySector
  | diskData => .readData

/-- What a card is called to do when a port is written, if anything. -/
def writing (data : UInt8) :
    (function : PortFunction) → Option (Call function.card)
  | terminalStatus | senseSwitches => none
  | terminalData => some (.writeByte data)
  | diskSelectStatus => some (.select data)
  | diskFunctionSector => some (.command data)
  | diskData => some (.writeData data)

end PortFunction

/-- What is done with ports. -/
inductive PortUse where
  | input (port : UInt8)
  | output (port data : UInt8)
  | wire (port : UInt8) (function : Option PortFunction)
deriving DecidableEq

namespace Wiring

/-- The card that a use of a port goes to, and what it is called to do. -/
def call? (w : Wiring) : PortUse → Option ((k : Card) × Call k)
  | .input port => (w.get port).map fun f => ⟨f.card, f.reading⟩
  | .output port data =>
    (w.get port).bind fun f => (f.writing data).map fun call => ⟨f.card, call⟩
  | .wire _ _ => none

/-- The wiring after a port has been used. -/
def used (w : Wiring) : PortUse → Wiring
  | .wire port function => w.set port function
  | .input _ | .output _ _ => w

/-- What card `k` is called to do by a use of a port, if anything. -/
def callTo (w : Wiring) (k : Card) (use : PortUse) : Option (Call k) :=
  (w.call? use).bind fun ⟨other, call⟩ =>
    if h : other = k then some (h ▸ call) else none

/-- What card `k` is called to do by some uses of ports, each of them by the
wiring that it finds. -/
def calls (w : Wiring) (k : Card) : List PortUse → List (Call k)
  | [] => []
  | use :: rest => (w.callTo k use).toList ++ (w.used use).calls k rest

end Wiring

/-- Wired ports, with any cards behind them. -/
structure Dispatcher (σ : Card → Type) where
  wiring : Wiring
  cards : (k : Card) → σ k

namespace Dispatcher

variable {σ : Card → Type} [∀ k, Device k (σ k)]

/-- Have a card do something. -/
def serve (d : Dispatcher σ) {k : Card} (call : Call k) :
    Option UInt8 × Dispatcher σ :=
  let served := Device.serve (d.cards k) call
  (call.told served.1,
    { d with cards := Function.update d.cards k served.2 })

def serve? (d : Dispatcher σ) {k : Card} :
    Option (Call k) → Option UInt8 × Dispatcher σ
  | none => (none, d)
  | some call => d.serve call

/-- The byte that is read, if one is, and the ports afterwards. -/
def respond (d : Dispatcher σ) : PortUse → Option UInt8 × Dispatcher σ
  | .input port =>
    match d.wiring.get port with
    | none => (some 0, d)
    | some function => d.serve function.reading
  | .output port data =>
    match d.wiring.get port with
    | none => (none, d)
    | some function => d.serve? (function.writing data)
  | .wire port function =>
    (none, { d with wiring := d.wiring.set port function })

def after (d : Dispatcher σ) (uses : List PortUse) : Dispatcher σ :=
  uses.foldl (fun d use => (d.respond use).2) d

/-- The bytes that are read from card `k`, in their order. -/
def heard (d : Dispatcher σ) (k : Card) : List PortUse → List UInt8
  | [] => []
  | use :: rest =>
    (if (d.wiring.callTo k use).isSome then (d.respond use).1.toList else [])
      ++ (d.respond use).2.heard k rest

end Dispatcher

/-! ## One use -/

namespace Wiring

variable {w : Wiring} {k : Card} {use : PortUse}

theorem callTo_eq_some {call : Call k} :
    w.callTo k use = some call ↔ w.call? use = some ⟨k, call⟩ := by
  unfold callTo
  constructor
  · intro h
    obtain ⟨⟨other, asked⟩, hcall, hother⟩ := Option.bind_eq_some_iff.mp h
    dsimp only at hother
    split at hother
    · rename_i heq
      subst heq
      cases hother
      exact hcall
    · cases hother
  · intro h
    rw [h, Option.bind_some]
    exact dif_pos rfl

end Wiring

namespace Dispatcher

variable {σ : Card → Type} [∀ k, Device k (σ k)] {d : Dispatcher σ}
  {use : PortUse} {k : Card}

theorem respond_of_some {call : Call k}
    (h : d.wiring.call? use = some ⟨k, call⟩) :
    d.respond use = d.serve call := by
  cases use with
  | input port =>
      obtain ⟨function, hget, hcall⟩ := Option.map_eq_some_iff.mp h
      cases hcall
      simp only [respond, hget]
  | output port data =>
      obtain ⟨function, hget, hbind⟩ := Option.bind_eq_some_iff.mp h
      obtain ⟨asked, hwriting, hcall⟩ := Option.map_eq_some_iff.mp hbind
      cases hcall
      simp only [respond, hget, hwriting, serve?]
  | wire port function => cases h

theorem respond_of_none (h : d.wiring.call? use = none) :
    (d.respond use).2 = { d with wiring := d.wiring.used use } := by
  cases use with
  | input port =>
      have hget := Option.map_eq_none_iff.mp h
      simp only [respond, hget, Wiring.used]
  | output port data =>
      cases hget : d.wiring.get port with
      | none => simp only [respond, hget, Wiring.used]
      | some function =>
          have hwriting : function.writing data = none := by
            simpa [Wiring.call?, hget] using h
          simp only [respond, hget, hwriting, serve?, Wiring.used]
  | wire port function => rfl

theorem wiring_respond : (d.respond use).2.wiring = d.wiring.used use := by
  cases hcall : d.wiring.call? use with
  | none => rw [respond_of_none hcall]
  | some asked =>
      rw [respond_of_some hcall]
      -- to wire a port anew is to call no card
      cases use with
      | wire port function => cases hcall
      | _ => rfl

/-- A card that is called does what it is called to do. -/
theorem respond_of_callTo {call : Call k}
    (h : d.wiring.callTo k use = some call) :
    d.respond use = d.serve call :=
  respond_of_some (Wiring.callTo_eq_some.mp h)

/-- A card that is not called stays as it is. -/
theorem cards_of_callTo (h : d.wiring.callTo k use = none) :
    (d.respond use).2.cards k = d.cards k := by
  cases hcall : d.wiring.call? use with
  | none => rw [respond_of_none hcall]
  | some asked =>
      obtain ⟨other, call⟩ := asked
      rw [respond_of_some hcall]
      refine Function.update_of_ne ?_ _ _
      rintro rfl
      rw [Wiring.callTo_eq_some.mpr hcall] at h
      cases h

/-- A use of a port makes of each card what the call makes of it that the card
gets, if it gets one. -/
theorem cards_respond :
    (d.respond use).2.cards k =
      Card.serveAll (d.cards k) (d.wiring.callTo k use).toList := by
  cases hcall : d.wiring.callTo k use with
  | none => exact cards_of_callTo hcall
  | some call =>
      rw [respond_of_callTo hcall]
      exact Function.update_self ..

/-- And what is read from it is what it answers to that. -/
theorem heard_singleton :
    d.heard k [use] =
      Card.bytes (d.cards k) (d.wiring.callTo k use).toList := by
  unfold heard
  cases hcall : d.wiring.callTo k use with
  | none => rfl
  | some call =>
      rw [respond_of_callTo hcall]
      rfl

/-! ## Many uses -/

/-- Each card goes on as if it were alone with the calls that it gets. -/
theorem cards_after (uses : List PortUse) :
    (d.after uses).cards k =
      Card.serveAll (d.cards k) (d.wiring.calls k uses) := by
  induction uses generalizing d with
  | nil => rfl
  | cons use rest ih =>
      calc (d.after (use :: rest)).cards k
        _ = Card.serveAll ((d.respond use).2.cards k)
              ((d.respond use).2.wiring.calls k rest) := ih
        _ = Card.serveAll
              (Card.serveAll (d.cards k) (d.wiring.callTo k use).toList)
              ((d.wiring.used use).calls k rest) := by
            rw [cards_respond, wiring_respond]
        _ = _ := (Card.serveAll_append ..).symm

theorem heard_eq (uses : List PortUse) :
    d.heard k uses = Card.bytes (d.cards k) (d.wiring.calls k uses) := by
  induction uses generalizing d with
  | nil => rfl
  | cons use rest ih =>
      calc d.heard k (use :: rest)
        _ = d.heard k [use] ++ (d.respond use).2.heard k rest := by
            simp only [heard, List.append_nil]
        _ = Card.bytes (d.cards k) (d.wiring.callTo k use).toList
              ++ Card.bytes
                (Card.serveAll (d.cards k) (d.wiring.callTo k use).toList)
                ((d.wiring.used use).calls k rest) := by
            rw [heard_singleton, ih, cards_respond, wiring_respond]
        _ = _ := (Card.bytes_append ..).symm

/-! ## Order and numbers -/

/-- Calls of different cards can be made in either order. -/
theorem serve_comm {j : Card} (hne : j ≠ k) (a : Call j) (b : Call k) :
    ((d.serve a).2.serve b).1 = (d.serve b).1
      ∧ ((d.serve b).2.serve a).1 = (d.serve a).1
      ∧ ((d.serve a).2.serve b).2 = ((d.serve b).2.serve a).2 := by
  have hj (card : σ k) : Function.update d.cards k card j = d.cards j :=
    Function.update_of_ne hne _ _
  have hk (card : σ j) : Function.update d.cards j card k = d.cards k :=
    Function.update_of_ne hne.symm _ _
  simp only [serve, hj, hk]
  refine ⟨trivial, trivial, ?_⟩
  rw [Function.update_comm hne]

theorem respond_comm {first second : PortUse} {j : Card} (hne : j ≠ k)
    (hfirst : (d.wiring.callTo j first).isSome)
    (hsecond : (d.wiring.callTo k second).isSome) :
    ((d.respond first).2.respond second).1 = (d.respond second).1
      ∧ ((d.respond second).2.respond first).1 = (d.respond first).1
      ∧ ((d.respond first).2.respond second).2 =
          ((d.respond second).2.respond first).2 := by
  obtain ⟨a, ha⟩ := Option.isSome_iff_exists.mp hfirst
  obtain ⟨b, hb⟩ := Option.isSome_iff_exists.mp hsecond
  rw [respond_of_callTo ha, respond_of_callTo hb,
    respond_of_callTo (d := (d.serve a).2) hb,
    respond_of_callTo (d := (d.serve b).2) ha]
  exact serve_comm hne a b

/-- What is read is the same, and the cards are the same afterwards. -/
def Alike (r r' : Option UInt8 × Dispatcher σ) : Prop :=
  r.1 = r'.1 ∧ r.2.cards = r'.2.cards

variable {e : Dispatcher σ} {port other : UInt8}

theorem alike_serve (hcards : d.cards = e.cards) (call : Call k) :
    Alike (d.serve call) (e.serve call) := by
  simp only [Alike, serve, hcards, and_self]

theorem alike_input (hcards : d.cards = e.cards)
    (hget : d.wiring.get port = e.wiring.get other) :
    Alike (d.respond (.input port)) (e.respond (.input other)) := by
  simp only [respond, hget]
  cases e.wiring.get other with
  | none => exact ⟨rfl, hcards⟩
  | some function => exact alike_serve hcards _

theorem alike_output (hcards : d.cards = e.cards)
    (hget : d.wiring.get port = e.wiring.get other) (data : UInt8) :
    Alike (d.respond (.output port data)) (e.respond (.output other data)) := by
  simp only [respond, hget]
  cases e.wiring.get other with
  | none => exact ⟨rfl, hcards⟩
  | some function =>
      dsimp only
      cases function.writing data with
      | none => exact ⟨rfl, hcards⟩
      | some call => exact alike_serve hcards call

theorem input_unwired (h : d.wiring.get port = none) :
    d.respond (.input port) = (some 0, d) := by
  simp only [respond, h]

/-- Nothing is done with what is written to nothing, to the status of the serial
card or to the switches. -/
theorem output_ignored (data : UInt8)
    (h : d.wiring.get port ∈
      [none, some .terminalStatus, some .senseSwitches]) :
    d.respond (.output port data) = (none, d) := by
  simp only [List.mem_cons, List.not_mem_nil, or_false] at h
  rcases h with hget | hget | hget <;> simp only [respond, hget] <;> rfl

end Dispatcher

/-! ## The ports of the backplane -/

namespace Ports

/-- The cards on the backplane. -/
def Running : Card → Type
  | .serial => Console
  | .panel => UInt8
  | .disks => Floppy.Controller

instance : Device .serial (Running .serial) where
  serve
    | (console : Console), .ready => console.ready
    | (console : Console), .readByte => console.readByte
    | (console : Console), .writeByte byte => ((), console.writeByte byte)

instance : Device .panel (Running .panel) where
  serve
    | (switches : UInt8), .sense => (switches, switches)

instance : Device .disks (Running .disks) where
  serve
    | (disks : Floppy.Controller), .select value => ((), disks.select value)
    | (disks : Floppy.Controller), .status => (disks.status, disks)
    | (disks : Floppy.Controller), .command value => ((), disks.command value)
    | (disks : Floppy.Controller), .querySector => disks.querySector
    | (disks : Floppy.Controller), .writeData value =>
      ((), disks.writeData value)
    | (disks : Floppy.Controller), .readData => disks.readData

instance : (k : Card) → Device k (Running k)
  | .serial => inferInstance
  | .panel => inferInstance
  | .disks => inferInstance

def dispatcher (p : Ports) : Dispatcher Running where
  wiring := p.wiring
  cards
    | .serial => p.devices.console
    | .panel => p.devices.switches
    | .disks => p.devices.disks

/-- The byte that is read, if one is, and the ports afterwards. -/
def respond (p : Ports) : PortUse → Option UInt8 × Ports
  | .input port =>
    let (data, p) := p.input port
    (some data, p)
  | .output port data => (none, p.output port data)
  | .wire port function => (none, (p.wire port function).2)

theorem serve_reading (p : Ports) (function : PortFunction) :
    p.dispatcher.serve function.reading =
      let served := p.devices.input function
      (some served.1, dispatcher { p with devices := served.2 }) := by
  cases function <;>
    · refine Prod.ext rfl (congrArg (Dispatcher.mk _) (funext fun k => ?_))
      cases k <;> rfl

theorem serve_writing (p : Ports) (data : UInt8) (function : PortFunction) :
    p.dispatcher.serve? (function.writing data) =
      (none, dispatcher { p with
        devices := p.devices.output data function }) := by
  cases function <;>
    · refine Prod.ext rfl (congrArg (Dispatcher.mk _) (funext fun k => ?_))
      cases k <;> rfl

/-- The ports of the backplane respond as a dispatcher with its cards. -/
theorem respond_dispatcher (p : Ports) (use : PortUse) :
    p.dispatcher.respond use =
      ((p.respond use).1, (p.respond use).2.dispatcher) := by
  have hwiring : p.dispatcher.wiring = p.wiring := rfl
  cases use with
  | input port =>
      simp only [Dispatcher.respond, respond, input, hwiring]
      cases p.wiring.get port with
      | none => rfl
      | some function => exact p.serve_reading function
  | output port data =>
      simp only [Dispatcher.respond, respond, output, hwiring]
      cases p.wiring.get port with
      | none => rfl
      | some function => exact p.serve_writing data function
  | wire port function => rfl

end Ports

/-- Whatever three cards are behind some ports, however these are wired and
used, and wired anew in between: each card is at the end what its own calls make
of it when there is nothing else, and what is read from it is what it answers
then. At any time a port that is not wired reads as 0 and changes nothing, and
nothing is changed by what is written to such a port, to the status of the
serial card or to the switches. Uses of different cards can be exchanged, and
two ports with the same function are the same to read and to write. The ports of
the backplane are one case of this. -/
theorem Dispatcher.projects {σ : Card → Type} [∀ k, Device k (σ k)]
    (start : Dispatcher σ) (uses : List PortUse) :
    let d := start.after uses
    (∀ k,
        let calls := start.wiring.calls k uses
        d.cards k = Card.serveAll (start.cards k) calls
          ∧ start.heard k uses = Card.bytes (start.cards k) calls)
      ∧ (∀ port, d.wiring.get port = none →
          d.respond (.input port) = (some 0, d))
      ∧ (∀ port data, d.wiring.get port ∈
            [none, some .terminalStatus, some .senseSwitches] →
          d.respond (.output port data) = (none, d))
      ∧ (∀ first second j k, j ≠ k →
          (d.wiring.callTo j first).isSome →
          (d.wiring.callTo k second).isSome →
          ((d.respond first).2.respond second).1 = (d.respond second).1
            ∧ ((d.respond second).2.respond first).1 = (d.respond first).1
            ∧ ((d.respond first).2.respond second).2 =
                ((d.respond second).2.respond first).2)
      ∧ (∀ (e : Dispatcher σ) (port other : UInt8), d.cards = e.cards →
          d.wiring.get port = e.wiring.get other →
          Alike (d.respond (.input port)) (e.respond (.input other))
            ∧ ∀ data, Alike (d.respond (.output port data))
                (e.respond (.output other data)))
      ∧ (∀ (p : Ports) (use : PortUse), p.dispatcher.respond use =
          ((p.respond use).1, (p.respond use).2.dispatcher)) := by
  intro d
  refine ⟨fun k => ⟨cards_after uses, heard_eq uses⟩,
    fun port => input_unwired, fun port data => output_ignored data,
    fun first second j k => respond_comm,
    fun e port other hcards hget =>
      ⟨alike_input hcards hget, alike_output hcards hget⟩,
    Ports.respond_dispatcher⟩

/-- A line of two characters, read at two ports and for a while at neither. -/
example :
    let p : Ports := {
      wiring := Wiring.standard.set 0x20 (some .terminalData)
      devices := { console := .buffered { input := [0x41, 0x42] } } }
    p.dispatcher.heard .serial
      [.input 0x10, .input 0x11, .wire 0x11 none, .input 0x11, .output 0x08 0,
        .input 0x20] = [0x03, 0x41, 0x42] := by
  decide +kernel

end S100
