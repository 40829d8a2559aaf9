import DebugBridge.Dict
import DebugBridge.Text.Lines

/-!
# Receivers of output lines

The output of a shell command goes to a receiver in batches of lines. After each read the receiver is
asked whether it wants to stop; after the last batch of a command that ran to its end it is flushed.

Any receiver can be `logged`: what it is told and what it answers is written down beside its memory.
-/

namespace DebugBridge

/-- A consumer of output lines with memory `σ`. -/
structure Receiver (σ : Type) where
  /-- Takes a batch of lines. -/
  accept : σ → List String → σ
  /-- Is asked whether it wants the command to stop. -/
  poll : σ → Bool × σ
  /-- Is told that the output is complete. -/
  flush : σ → σ

/-- What a receiver has heard. -/
structure Transcript where
  /-- The batches of lines, in order. -/
  batches : List (List String)
  /-- How often the output was reported complete. -/
  flushes : Nat
  deriving Repr, DecidableEq, Inhabited

/-- All the lines, in order. -/
def Transcript.lines (t : Transcript) : List String := t.batches.flatten

/-- Has it as many lines as are wanted? There is no wish without a number. -/
def Transcript.reaches (t : Transcript) : Option Nat → Bool
  | some wanted => decide (wanted ≤ t.lines.length)
  | none => false

/-- What happens to a receiver. -/
inductive Heard
  | batch (lines : List String)
  /-- It was asked, and this is its answer. -/
  | polled (stop : Bool)
  | flushed
  deriving Repr, DecidableEq, Inhabited

/-- The batches that a receiver was given, in order. -/
def Heard.batches (log : List Heard) : List (List String) :=
  log.filterMap fun
    | .batch lines => some lines
    | _ => none

@[simp] theorem Heard.batches_append (log more : List Heard) :
    batches (log ++ more) = batches log ++ batches more := List.filterMap_append

@[simp] theorem Heard.batches_batch (lines : List String) : batches [.batch lines] = [lines] := rfl

@[simp] theorem Heard.batches_polled (stop : Bool) : batches [.polled stop] = [] := rfl

@[simp] theorem Heard.batches_flushed : batches [.flushed] = [] := rfl

namespace Receiver

/-- Hands over a batch, unless it has no lines. -/
def offer (r : Receiver σ) (s : σ) (lines : List String) : σ :=
  if lines.isEmpty then s else r.accept s lines

/-- The same receiver, with a log of what happens to it. -/
def logged (r : Receiver σ) : Receiver (σ × List Heard) where
  accept s lines := (r.accept s.1 lines, s.2 ++ [.batch lines])
  poll s := ((r.poll s.1).1, (r.poll s.1).2, s.2 ++ [.polled (r.poll s.1).1])
  flush s := (r.flush s.1, s.2 ++ [.flushed])

theorem accept_logged (r : Receiver σ) (s : σ) (log : List Heard) (lines : List String) :
    r.logged.accept (s, log) lines = (r.accept s lines, log ++ [.batch lines]) := rfl

theorem poll_logged (r : Receiver σ) (s : σ) (log : List Heard) :
    r.logged.poll (s, log) = ((r.poll s).1, (r.poll s).2, log ++ [.polled (r.poll s).1]) := rfl

theorem flush_logged (r : Receiver σ) (s : σ) (log : List Heard) :
    r.logged.flush (s, log) = (r.flush s, log ++ [.flushed]) := rfl

theorem offer_logged (r : Receiver σ) (s : σ) (log : List Heard) (lines : List String) :
    r.logged.offer (s, log) lines =
      (r.offer s lines, if lines.isEmpty then log else log ++ [.batch lines]) := by
  rw [offer, offer]
  split <;> rfl

/-- Takes every batch in and never wants to stop. -/
def patient (accept : σ → List String → σ) : Receiver σ := ⟨accept, fun s => (false, s), id⟩

/-- Keeps every line. -/
def collecting : Receiver (List String) := patient fun lines batch => lines ++ batch

/-- Keeps every batch. -/
def batches : Receiver (List (List String)) := patient fun done batch => done ++ [batch]

/-- Writes down what it hears, and wants to stop once it has heard so many lines. -/
def transcribing (wanted : Option Nat) : Receiver Transcript where
  accept t batch := { t with batches := t.batches ++ [batch] }
  poll t := (t.reaches wanted, t)
  flush t := { t with flushes := t.flushes + 1 }

/-- The memory after several batches. -/
def acceptAll (r : Receiver σ) (s : σ) (all : List (List String)) : σ := all.foldl r.accept s

end Receiver

end DebugBridge
