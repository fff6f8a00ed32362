import S100.Proofs.Machine.Operations

/-!
# Consoles are queues

A pair of buffers and a line are built differently, the line with a byte taken
off it ahead. From outside they are one thing: a `Queue` of bytes that wait to
be read, and one of bytes that wait to be taken, where a line can be hung up
and its writer can break.

`Console.queue` is the queue that a console stands for. Whatever the host and
the machine do, in whatever order, the console answers as the queue does
(`respond_queue`), so that nothing depends on when the line was looked at.
What a queue does with bytes is first in, first out: what was there and what
came in is what went out and what is left, in this order (`gather_conserves`).
-/

namespace S100

namespace Console

/-! ## What is done with a console -/

/-- Something that the host does with a console, or the machine. -/
inductive Action where
  | type (bytes : Bytes)
  | hangUp
  | setBroken (broken : Bool)
  | takeOutput
  | readByte
  | writeByte (byte : UInt8)
  | ready
deriving DecidableEq

inductive Answer where
  | done
  | byte (byte : UInt8)
  | ready (ready : Bool)
  | output (bytes : Bytes)
deriving DecidableEq

/-- Hang up, where there is a line. -/
def hangUp : Console → Console
  | buffered c => buffered c
  | stream c => stream c.hangUp

/-- Break the writer or mend it, where there is one. -/
def setBroken (broken : Bool) : Console → Console
  | buffered c => buffered c
  | stream c => stream (c.setBroken broken)

def takeOutput : Console → Bytes × Console
  | buffered c =>
    let (bytes, c) := c.takeOutput
    (bytes, buffered c)
  | stream c =>
    let (bytes, c) := c.takeOutput
    (bytes, stream c)

/-- The answer to an action, and the console after it. -/
def respond (c : Console) : Action → Answer × Console
  | .type bytes => (.done, c.type bytes)
  | .hangUp => (.done, c.hangUp)
  | .setBroken broken => (.done, c.setBroken broken)
  | .takeOutput =>
    let (bytes, c) := c.takeOutput
    (.output bytes, c)
  | .readByte =>
    let (byte, c) := c.readByte
    (.byte byte, c)
  | .writeByte byte => (.done, c.writeByte byte)
  | .ready =>
    let (ready, c) := c.ready
    (.ready ready, c)

end Console

/-! ## Queues -/

/-- Bytes on their way in and out, the oldest first. -/
structure Queue where
  /-- Typed and not yet read. -/
  waiting : List UInt8
  /-- Printed and not yet taken. -/
  printed : List UInt8
  /-- Whether it can be hung up and break, and carries seven bits. -/
  isLine : Bool := false
  hungUp : Bool := false
  broken : Bool := false
deriving DecidableEq

namespace Queue

open Console (Action Answer)

/-- What gets through of a byte that is printed. -/
def carried (q : Queue) (byte : UInt8) : UInt8 :=
  if q.isLine then byte &&& 0x7F else byte

def respond (q : Queue) : Action → Answer × Queue
  | .type bytes =>
    (.done,
      if q.hungUp then q else { q with waiting := q.waiting ++ bytes.toList })
  | .hangUp => (.done, { q with hungUp := q.hungUp || q.isLine })
  | .setBroken broken => (.done, { q with broken := q.isLine && broken })
  | .takeOutput => (.output q.printed.toArray, { q with printed := [] })
  | .readByte =>
    match q.waiting with
    | [] => (.byte 0, q)
    | byte :: later => (.byte byte, { q with waiting := later })
  | .writeByte byte =>
    (.done,
      if q.broken then q
      else { q with printed := q.printed ++ [q.carried byte] })
  | .ready => (.ready !q.waiting.isEmpty, q)

end Queue

namespace Console

/-- The queue that a console stands for. The byte that was taken off the line
ahead still waits to be read. -/
def queue : Console → Queue
  | buffered c => { waiting := c.input, printed := c.output.toList }
  | stream c => {
      waiting := c.pending.toList ++ c.line
      printed := c.output.toList
      isLine := true
      hungUp := c.hungUp
      broken := c.broken }

/-- A console answers an action as its queue does, and goes on as that. -/
theorem respond_queue (c : Console) (a : Action) :
    (c.respond a).1 = (c.queue.respond a).1
      ∧ (c.respond a).2.queue = (c.queue.respond a).2 := by
  cases c with
  | buffered c =>
      obtain ⟨input, output⟩ := c
      cases a with
      | readByte => cases input <;> exact ⟨rfl, rfl⟩
      | writeByte byte =>
          refine ⟨rfl, ?_⟩
          simp [respond, writeByte, Buffered.writeByte, queue, Queue.respond,
            Queue.carried]
      | _ => exact ⟨rfl, rfl⟩
  | stream c =>
      obtain ⟨pending, line, hungUp, output, flushes, broken⟩ := c
      cases a with
      | type bytes =>
          refine ⟨rfl, ?_⟩
          cases hungUp
          · simp [respond, type, Stream.send, queue, Queue.respond]
          · rfl
      | hangUp =>
          refine ⟨rfl, ?_⟩
          simp [respond, hangUp, Stream.hangUp, queue, Queue.respond]
      | writeByte byte =>
          refine ⟨rfl, ?_⟩
          cases broken
          · simp [respond, writeByte, Stream.writeByte, queue, Queue.respond,
              Queue.carried]
          · rfl
      -- The machine looks at the line, unless a byte is pending.
      | readByte | ready =>
          cases pending with
          | none => cases line <;> exact ⟨rfl, rfl⟩
          | some byte => exact ⟨rfl, rfl⟩
      | setBroken _ | takeOutput => exact ⟨rfl, rfl⟩

/-! ## One action after the other -/

section Runs

variable {σ α : Type} (respond : σ → Action → Answer × σ)

/-- What is left after some actions. -/
def after (s : σ) (actions : List Action) : σ :=
  actions.foldl (fun s a => (respond s a).2) s

/-- What is gathered along some actions, from each of them and the state that
it finds. -/
def gather (f : σ → Action → List α) (s : σ) : List Action → List α
  | [] => []
  | a :: rest => f s a ++ gather f (respond s a).2 rest

/-- The answers to some actions, in their order. -/
def answers (s : σ) (actions : List Action) : List Answer :=
  gather respond (fun s a => [(respond s a).1]) s actions

variable {respond}

/-- What is kept in order by each action is kept in order by all: what was in
there and what came in is what went out and what is still in there. -/
theorem gather_conserves {content : σ → List α}
    {came went : σ → Action → List α}
    (h : ∀ s a, content s ++ came s a = went s a ++ content (respond s a).2)
    (s : σ) (actions : List Action) :
    content s ++ gather respond came s actions =
      gather respond went s actions ++ content (after respond s actions) := by
  induction actions generalizing s with
  | nil => exact List.append_nil _
  | cons a rest ih =>
      calc content s ++ (came s a ++ gather respond came (respond s a).2 rest)
        _ = went s a ++ (content (respond s a).2
              ++ gather respond came (respond s a).2 rest) := by
            rw [← List.append_assoc, h, List.append_assoc]
        _ = went s a ++ (gather respond went (respond s a).2 rest
              ++ content (after respond s (a :: rest))) := by
            rw [ih]
            rfl
        _ = _ := (List.append_assoc ..).symm

end Runs

theorem after_queue (c : Console) (actions : List Action) :
    (after respond c actions).queue = after Queue.respond c.queue actions := by
  induction actions generalizing c with
  | nil => rfl
  | cons a rest ih =>
      refine (ih _).trans ?_
      rw [(c.respond_queue a).2]
      rfl

/-- What is gathered of answers along a console is gathered along its
queue. -/
theorem gather_queue {α : Type} {f : Console → Action → List α}
    {g : Queue → Action → List α} (h : ∀ c a, f c a = g c.queue a)
    (c : Console) (actions : List Action) :
    gather respond f c actions = gather Queue.respond g c.queue actions := by
  induction actions generalizing c with
  | nil => rfl
  | cons a rest ih =>
      rw [gather, gather, h, ih, (c.respond_queue a).2]

theorem answers_queue (c : Console) (actions : List Action) :
    answers respond c actions = answers Queue.respond c.queue actions :=
  gather_queue (fun c a => by rw [(c.respond_queue a).1]) c actions

/-! ## What comes in and goes out -/

/-- The bytes that an action puts in: those that are typed, as long as nobody
has hung up. -/
def sent (c : Console) : Action → List UInt8
  | .type bytes => if c.queue.hungUp then [] else bytes.toList
  | _ => []

/-- The byte that is read, when there is one. -/
def received (c : Console) : Action → List UInt8
  | .readByte => if c.queue.waiting = [] then [] else [c.readByte.1]
  | _ => []

/-- The byte that is written, as it is carried, while the writer works. -/
def written (c : Console) : Action → List UInt8
  | .writeByte byte => if c.queue.broken then [] else [c.queue.carried byte]
  | _ => []

def taken (c : Console) : Action → List UInt8
  | .takeOutput => c.takeOutput.1.toList
  | _ => []

/-- First in, first out: reading takes the byte that has waited longest, and
typing adds to the others. -/
theorem waiting_respond (c : Console) (a : Action) :
    c.queue.waiting ++ sent c a =
      received c a ++ (c.respond a).2.queue.waiting := by
  rw [(c.respond_queue a).2]
  cases a with
  | type bytes =>
      simp only [sent, received, Queue.respond, List.nil_append]
      split
      · exact List.append_nil _
      · rfl
  | readByte =>
      have hbyte := (c.respond_queue .readByte).1
      simp only [respond, sent, received, Queue.respond] at hbyte ⊢
      cases hwaiting : c.queue.waiting with
      | nil => rw [hwaiting]; rfl
      | cons byte later =>
          rw [hwaiting] at hbyte
          rw [if_neg (List.cons_ne_nil byte later), Answer.byte.inj hbyte]
          exact List.append_nil _
  | writeByte byte =>
      simp only [sent, received, Queue.respond, List.nil_append]
      split <;> exact List.append_nil _
  | _ => exact List.append_nil _

theorem printed_respond (c : Console) (a : Action) :
    c.queue.printed ++ written c a =
      taken c a ++ (c.respond a).2.queue.printed := by
  rw [(c.respond_queue a).2]
  cases a with
  | takeOutput =>
      have houtput := (c.respond_queue .takeOutput).1
      simp only [respond, written, taken, Queue.respond] at houtput ⊢
      rw [Answer.output.inj houtput]
  | writeByte byte =>
      simp only [written, taken, Queue.respond, List.nil_append]
      split
      · exact List.append_nil _
      · rfl
  | readByte =>
      simp only [written, taken, Queue.respond, List.nil_append]
      cases c.queue.waiting <;> exact List.append_nil _
  | type bytes =>
      simp only [written, taken, Queue.respond, List.nil_append]
      split <;> exact List.append_nil _
  | _ => exact List.append_nil _

/-! ## Asking whether there is input -/

/-- What is answered to anything but a question whether there is input. -/
def unasked {σ : Type} (respond : σ → Action → Answer × σ) (s : σ)
    (a : Action) : List Answer :=
  if a = .ready then [] else [(respond s a).1]

/-- A queue does not change when it is asked whether there is input. -/
theorem gather_unasked_queue (q : Queue) (actions : List Action) :
    gather Queue.respond (unasked Queue.respond) q actions =
      answers Queue.respond q (actions.filter (· ≠ .ready)) := by
  induction actions generalizing q with
  | nil => rfl
  | cons a rest ih =>
      by_cases ha : a = .ready
      · subst ha
        rw [List.filter_cons_of_neg (by simp)]
        exact ih q
      · rw [List.filter_cons_of_pos (by simpa using ha), gather, ih, unasked,
          if_neg ha]
        rfl

/-- So to ask makes no difference to other answers. -/
theorem gather_unasked (c : Console) (actions : List Action) :
    gather respond (unasked respond) c actions =
      answers respond c (actions.filter (· ≠ .ready)) := by
  have hanswer (c : Console) (a : Action) :
      unasked respond c a = unasked Queue.respond c.queue a := by
    rw [unasked, unasked, (c.respond_queue a).1]
  rw [gather_queue hanswer, gather_unasked_queue, answers_queue]

/-- Whatever the host and the machine do with a console, and in whatever
order, it answers as the queue that it stands for, and goes on as that. The
bytes that are read while there are any are those that waited and those that
are sent, in their order, up to those that wait at the end; the output that is
taken is what was printed and what is written while the writer works, up to
what is left at the end. And all other answers are as they would have been, had
nobody asked whether there is input. -/
theorem behaves_as_queue (c : Console) (actions : List Action) :
    answers respond c actions = answers Queue.respond c.queue actions
      ∧ (after respond c actions).queue =
          after Queue.respond c.queue actions
      ∧ c.queue.waiting ++ gather respond sent c actions =
          gather respond received c actions
            ++ (after respond c actions).queue.waiting
      ∧ c.queue.printed ++ gather respond written c actions =
          gather respond taken c actions
            ++ (after respond c actions).queue.printed
      ∧ gather respond (unasked respond) c actions =
          answers respond c (actions.filter (· ≠ .ready)) := by
  exact ⟨answers_queue c actions, after_queue c actions,
    gather_conserves waiting_respond c actions,
    gather_conserves printed_respond c actions, gather_unasked c actions⟩

/-- A line that is hung up with a byte on it and one taken off it ahead. -/
example :
    answers respond (.stream {})
      [.ready, .type #[0x41, 0x42], .ready, .hangUp, .type #[0x43],
        .readByte, .readByte, .readByte] =
      [.ready false, .done, .ready true, .done, .done,
        .byte 0x41, .byte 0x42, .byte 0] := by
  decide

end Console

end S100
