import SolverDeck.Case.Reading
import SolverDeck.Files.Tree
import SolverDeck.SharedStore
import SolverDeck.Writing

/-!
# Sessions

A session works with a store of its own, with the shared store of the process, with a
copy that either can be saved to and restored from, and with the files of a tree. It
is a run of *steps*, each of which gets a reply: an answer and the events it raised.

Most steps act on a store. The session has its own at hand (`act`), and reaches the shared
one through its ways in (`onShared`), which let it do the same unless they refuse.
-/

namespace SolverDeck

/-- The store that a step acts on. -/
inductive Session.Target where
  /-- The session's own store. -/
  | own
  /-- The store of the process. -/
  | shared
deriving DecidableEq, Repr

/-- What a step can do with a store. -/
inductive Session.Action where
  /-- Register a value under a label. -/
  | register (label : String) (value : Value)
  /-- Register a value under the label of a field, as the field's own setter does. -/
  | set (field : Field) (value : Value)
  | apply (c : Case)
  | reset
  /-- Show the store. -/
  | dump
  | scalar (label : String)
  | sweep (label : String)
  | isEmpty
  /-- Save a copy of the store. -/
  | saveCopy
  /-- Compare the store with the copy. -/
  | equalsCopy
  /-- Make the store what the copy is. -/
  | restoreCopy
  | plan (base : String)
  /-- Write the decks below a root. -/
  | write (root : Path) (base : String)

/-- A step of a session. -/
inductive Session.Step where
  /-- Do something with a store. -/
  | on (target : Session.Target) (action : Session.Action)
  /-- Break off an update of the shared store. -/
  | breakOff
  | makeDirectory (path : Path)
  /-- Make a file together with the directories above it. -/
  | makeFile (path : Path) (content : ByteArray)
  /-- Read a case from a file. -/
  | loadCase (path : Path)
  | listFiles

/-- What a step answers. -/
inductive Session.Answer where
  /-- The store as it is now. -/
  | state (store : Store)
  /-- The store after a case was applied, and what stopped it. -/
  | applied (fault : Option Fault) (store : Store)
  | scalar (value : Option Value)
  | sweep (values : Option (List Value))
  | isEmpty (holds : Bool)
  | saved
  /-- Whether the store equals the copy. -/
  | equal (holds : Bool)
  | plan (plan : Plan)
  | outcome (outcome : Outcome)
  | fault (fault : Fault)
  /-- Whether the shared store could still be poisoned. -/
  | brokenOff (first : Bool)
  | directoryMade
  | fileMade
  /-- A directory or file could not be made. -/
  | notMade (error : FileError)
  /-- The case that a file holds. -/
  | loaded (c : Case)
  /-- All files. -/
  | files (listing : List (Path × Option ByteArray))

/-- An answer, and the events raised on the way to it. -/
structure Session.Reply where
  answer : Session.Answer
  events : List Log.Event

/-- The state of a session. -/
structure Session where
  /-- The session's own store. -/
  own : Store
  /-- The store of the process. -/
  shared : SharedStore
  /-- The saved copy of a store. -/
  copy : Store
  files : FileTree

namespace Session

/-- A session that has done nothing yet. -/
def fresh (files : FileTree) : Session :=
  ⟨.empty, .fresh, .empty, files⟩

/-- The store that a step acts on. -/
def storeOf (s : Session) : Target → Except Fault Store
  | .own => .ok s.own
  | .shared => s.shared.snapshot

/-- The session with the store of a target replaced. -/
def withStore (s : Session) (target : Target) (store : Store) : Session :=
  match target with
  | .own => { s with own := store }
  | .shared => { s with shared := .usable store }

/-- The answer to writing. -/
def writtenAnswer : Except Fault Outcome → Answer
  | .ok outcome => .outcome outcome
  | .error fault => .fault fault

/-- Do something with the store of a target, which is `store`. -/
def act (s : Session) (target : Target) (store : Store) : Action → Session × Reply
  | .register label value =>
      let changed := store.register label value
      (s.withStore target changed, ⟨.state changed, [.registering label value]⟩)
  | .set field value =>
      let changed := store.set field value
      (s.withStore target changed, ⟨.state changed, [.registering field.label value]⟩)
  | .apply c =>
      -- A case that is stopped leaves what it registered up to there.
      let changed := c.applyTo store
      (s.withStore target changed, ⟨.applied c.fault? changed, c.events⟩)
  | .reset => (s.withStore target .empty, ⟨.state .empty, []⟩)
  | .dump => (s, ⟨.state store, []⟩)
  | .scalar label => (s, ⟨.scalar (store.scalar? label), []⟩)
  | .sweep label => (s, ⟨.sweep (store.sweep? label), []⟩)
  | .isEmpty => (s, ⟨.isEmpty store.isEmpty, []⟩)
  | .saveCopy => ({ s with copy := store }, ⟨.saved, []⟩)
  | .equalsCopy => (s, ⟨.equal (store == s.copy), []⟩)
  | .restoreCopy => (s.withStore target s.copy, ⟨.state s.copy, []⟩)
  | .plan base => (s, ⟨.plan (store.plan base), []⟩)
  | .write root base =>
      let (written, files) := store.write FileTree.access root base s.files
      ({ s with files := files }, ⟨writtenAnswer written.result, written.events⟩)

/-- The session after an update of the shared store, and the reply to it, which shows the
store as it is then. -/
def updated (s : Session) (update : Written α × SharedStore) (answer : α → Store → Answer) :
    Session × Reply :=
  let next := { s with shared := update.2 }
  match update.1.result, update.2.snapshot with
  | .ok result, .ok store => (next, ⟨answer result store, update.1.events⟩)
  | .error fault, _ => (next, ⟨.fault fault, update.1.events⟩)
  | .ok _, .error fault => (next, ⟨.fault fault, update.1.events⟩)

/-- The session after a look at the shared store, and the reply to it. -/
def looked (s : Session) (look : Store → Session × Answer) : Session × Reply :=
  match s.shared.snapshot with
  | .ok store =>
      let (next, answer) := look store
      (next, ⟨answer, []⟩)
  | .error fault => (s, ⟨.fault fault, []⟩)

/-- Do something with the shared store. -/
def onShared (s : Session) : Action → Session × Reply
  | .register label value =>
      s.updated (s.shared.register label value) fun _ store => .state store
  | .set field value => s.updated (s.shared.set field value) fun _ store => .state store
  | .apply c =>
      s.updated (s.shared.update fun store => (⟨c.events, .ok c.fault?⟩, c.applyTo store))
        .applied
  | .reset =>
      s.updated (s.shared.update fun _ => (⟨[], .ok ()⟩, .empty)) fun _ store => .state store
  | .dump => s.looked fun store => (s, .state store)
  | .scalar label => s.looked fun store => (s, .scalar (store.scalar? label))
  | .sweep label => s.looked fun store => (s, .sweep (store.sweep? label))
  | .isEmpty => s.looked fun store => (s, .isEmpty store.isEmpty)
  | .saveCopy => s.looked fun store => ({ s with copy := store }, .saved)
  | .equalsCopy => s.looked fun store => (s, .equal (store == s.copy))
  | .restoreCopy =>
      s.updated (s.shared.update fun _ => (⟨[], .ok ()⟩, s.copy)) fun _ store => .state store
  | .plan base => s.looked fun store => (s, .plan (store.plan base))
  | .write root base =>
      let (written, files) := s.shared.write FileTree.access root base s.files
      ({ s with files := files }, ⟨writtenAnswer written.result, written.events⟩)

/-- The answer to making a directory or a file. -/
def madeAnswer (made : Answer) : Except FileError Unit → Answer
  | .ok () => made
  | .error e => .notMade e

/-- Perform a step. -/
def perform (s : Session) : Step → Session × Reply
  | .on .own action => s.act .own s.own action
  | .on .shared action => s.onShared action
  | .breakOff =>
      match s.shared with
      | .usable _ => ({ s with shared := s.shared.breakOff }, ⟨.brokenOff true, []⟩)
      -- Such an update is refused before it can break off.
      | .poisoned => (s, ⟨.brokenOff false, []⟩)
  | .makeDirectory path =>
      let (result, files) := s.files.ensureDirectory path
      ({ s with files := files }, ⟨madeAnswer .directoryMade result, []⟩)
  | .makeFile path content =>
      let (result, files) := s.files.install path content
      ({ s with files := files }, ⟨madeAnswer .fileMade result, []⟩)
  | .loadCase path =>
      match (Case.load FileTree.access path s.files).1 with
      | .ok c => (s, ⟨.loaded c, []⟩)
      | .error fault => (s, ⟨.fault fault, []⟩)
  | .listFiles => (s, ⟨.files s.files.listing, []⟩)

/-- Perform steps one after the other. -/
def run (s : Session) : List Step → Session × List Reply
  | [] => (s, [])
  | step :: steps =>
      let (next, reply) := s.perform step
      let (last, replies) := next.run steps
      (last, reply :: replies)

end Session

end SolverDeck
