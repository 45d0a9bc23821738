import Toolpath.Planner.Journal
import Toolpath.Planner.Fifo

/-!
# A planner for dry runs

A rehearsal stands in for a planner. It answers by a script while the script lasts, and
from then on keeps what it is offered: in a plain record, in a block queue or in a lane.
Waiting for it carries out some of the blocks, and may halt it at a set moment. With a
journal beside it, it reports what happened between two moments.
-/

namespace Toolpath

/-- What a script says about one offered block. -/
inductive Cue where
  /-- The block goes on to the store. -/
  | toStore
  /-- There is no room for now. -/
  | full
  /-- The block is refused for good. -/
  | fatal (cause : PlannerFault)

/-- Where accepted blocks are kept. -/
inductive Store (β : Type) where
  /-- Nowhere: an accepted block counts as carried out at once. -/
  | record
  /-- In a block queue. -/
  | queue (capacity : Nat) (blocks : HaltableQueue β capacity)
  /-- In a lane. -/
  | lane (slots : Nat) (blocks : Lane β slots)

namespace Store

variable {β : Type}

/-- Number of blocks that wait, for a store that keeps them. -/
def length? : Store β → Option Nat
  | record => none
  | queue _ blocks => some blocks.length
  | lane _ blocks => some blocks.length

/-- Offer a block to the store. -/
def offer (store : Store β) (block : β) : Answer × Store β :=
  match store with
  | record => (.accepted, record)
  | queue capacity blocks =>
    let (answer, blocks) := blocks.offer block
    (answer, queue capacity blocks)
  | lane slots blocks =>
    let (answer, blocks) := Lane.offer blocks block
    (answer, lane slots blocks)

/-- Take the oldest block out. -/
def pop : Store β → Option β × Store β
  | record => (none, record)
  | queue capacity blocks =>
    let (block, blocks) := blocks.pop
    (block, queue capacity blocks)
  | lane slots blocks =>
    let (block, blocks) := blocks.pop
    (block, lane slots blocks)

/-- Halt, resume or clear the block queue; other stores have no such switch. -/
def onQueue (change : {capacity : Nat} → HaltableQueue β capacity → HaltableQueue β capacity) :
    Store β → Store β
  | queue capacity blocks => queue capacity (change blocks)
  | store => store

end Store

/-- State of a rehearsal. -/
structure Rehearsal (α : Type) where
  /-- Answers to the next offers. -/
  script : List Cue
  /-- Where accepted blocks are kept. -/
  store : Store (Block α)
  /-- Greatest number of blocks carried out during one wait. -/
  drain : Nat
  /-- Number of the wait at whose end the queue is halted. -/
  haltAfter : Option Nat
  /-- Number of waits so far. -/
  waits : Nat
  /-- Blocks carried out since the last report, the newest first. -/
  carriedOut : List (Block α)

namespace Rehearsal

variable {α : Type}

/-- A rehearsal before its first offer. -/
def start (script : List Cue) (store : Store (Block α)) (drain : Nat)
    (haltAfter : Option Nat) : Rehearsal α :=
  ⟨script, store, drain, haltAfter, 0, []⟩

/-- Offer a block to the store, past the script. -/
def offerStore (rehearsal : Rehearsal α) (block : Block α) : Answer × Rehearsal α :=
  let (answer, store) := rehearsal.store.offer block
  let carriedOut :=
    match store with
    | .record => block :: rehearsal.carriedOut
    | _ => rehearsal.carriedOut
  (answer, { rehearsal with store, carriedOut })

/-- Offer a block. -/
def offer (rehearsal : Rehearsal α) (block : Block α) : Answer × Rehearsal α :=
  match rehearsal.script with
  | [] => rehearsal.offerStore block
  | .toStore :: script => { rehearsal with script }.offerStore block
  | .full :: script => (.full, { rehearsal with script })
  | .fatal cause :: script => (.fatal cause, { rehearsal with script })

/-- Carry out waiting blocks, at most the given number. -/
def carryOut : Nat → Rehearsal α → Rehearsal α
  | 0, rehearsal => rehearsal
  | count + 1, rehearsal =>
    match rehearsal.store.pop with
    | (none, _) => rehearsal
    | (some block, store) =>
      carryOut count { rehearsal with store, carriedOut := block :: rehearsal.carriedOut }

/-- Carry out everything that waits. -/
def carryOutAll (rehearsal : Rehearsal α) : Rehearsal α :=
  rehearsal.carryOut (rehearsal.store.length?.getD 0)

/-- Change the block queue, if there is one. -/
def onQueue (rehearsal : Rehearsal α)
    (change : {capacity : Nat} → HaltableQueue (Block α) capacity →
      HaltableQueue (Block α) capacity) : Rehearsal α :=
  { rehearsal with store := rehearsal.store.onQueue change }

/-- Wait: blocks are carried out, and the queue is halted if its moment has come. -/
def wait (rehearsal : Rehearsal α) (_ : UInt32) : Rehearsal α :=
  let waits := rehearsal.waits + 1
  let rehearsal := carryOut rehearsal.drain { rehearsal with waits }
  if rehearsal.haltAfter = some waits then rehearsal.onQueue HaltableQueue.halt else rehearsal

/-- A rehearsal with a journal, as what lies downstream of a dispatcher. -/
def downstream (patience : Nat) : Downstream α (Rehearsal α × Journal α) :=
  Downstream.journaled ⟨offer, wait, patience⟩

end Rehearsal

/-- What happened since the report before. -/
structure Report (α : Type) where
  /-- Blocks carried out, the oldest first. -/
  blocks : List (Block α)
  /-- Blocks that wait, for a store that keeps them. -/
  queued : Option Nat
  /-- Number of offers. -/
  offers : Nat
  /-- Waits in microseconds, the last one first. -/
  waits : List UInt32

/-- Report what happened, and begin a new page. -/
def Rehearsal.report {α : Type} (rehearsal : Rehearsal α) (journal : Journal α) :
    Report α × Rehearsal α × Journal α :=
  (⟨rehearsal.carriedOut.reverse, rehearsal.store.length?, journal.offers, journal.waits⟩,
    { rehearsal with carriedOut := [] }, [])

end Toolpath
