import Counterpart.Session

/-!
# Sessions that keep their tables

The table of a host is drawn up when it is asked for the first time, and kept in a cell of the host
from then on. The cells stand in a second row beside the hosts; a cell is never written twice. A
transcript is what such a session answers to one request after the other.
-/

namespace Counterpart

/-- A session with one cell for the table of every host. -/
structure CachedSession extends Session where
  tables : List (Option (List Member))
deriving Repr, Inhabited

namespace CachedSession

/-- A session without hosts. -/
def empty : CachedSession := ⟨.empty, []⟩

/-- Register a struct, if it passes all checks. Its cell is empty. -/
def register (session : CachedSession) (item : StructItem) (configuration : Configuration)
    (rename : Option (Located Ident)) : Checked (Nat × CachedSession) := do
  let (id, hosts) ← session.toSession.register item configuration rename
  pure (id, ⟨hosts, session.tables ++ [none]⟩)

/-- The table of the host with the given number. It is read from the cell, if it is there, and
drawn up and kept otherwise. A table that cannot be drawn up leaves the cell empty. -/
def children (session : CachedSession) (id : Nat) : Generated (List Member) × CachedSession :=
  match session.tables[id]? with
  | none => (.error .brokenTemplate, session)
  | some (some members) => (.ok members, session)
  | some none =>
    match session.host? id with
    | none => (.error .brokenTemplate, session)
    | some host =>
      match host.members with
      | .error failure => (.error failure, session)
      | .ok members =>
        (.ok members, { session with tables := session.tables.set id (some members) })

/-- What a session can be asked about a host. -/
inductive Question where
  | host
  | children
  | memberNames (owner : Owner)
  | emit
deriving DecidableEq, Repr, Inhabited

/-- What a session replies. -/
inductive Reply where
  | host (host : Host)
  | members (members : List Member)
  | names (names : List Ident)
  | emission (emission : Emission)
deriving Repr, Inhabited

/-- The reply to a question about the host with the given number. A number that is not known ends
the expansion at once. -/
def reply (session : CachedSession) (id : Nat) : Question → Generated Reply × CachedSession
  | .host =>
    match session.host? id with
    | some host => (.ok (.host host), session)
    | none => (.error .brokenTemplate, session)
  | .children =>
    let (members, session) := session.children id
    (.members <$> members, session)
  | .memberNames owner =>
    let (members, session) := session.children id
    ((fun members => .names (Member.namesOf owner members)) <$> members, session)
  | .emit =>
    match session.host? id with
    | some host =>
      let (members, session) := session.children id
      (.emission <$> (members >>= host.emissionOf), session)
    | none => (.error .brokenTemplate, session)

/-! ## Transcripts -/

/-- A request to a session. -/
inductive Request where
  | register (item : StructItem) (configuration : Configuration) (rename : Option (Located Ident))
  | ask (id : Nat) (question : Question)
deriving Repr, Inhabited

/-- The answer to a request. -/
inductive Answer where
  /-- The struct is registered under a number. -/
  | registered (id : Nat)
  /-- The struct fails a check. -/
  | refused (diagnostics : List Diagnostic)
  | replied (reply : Generated Reply)
deriving Repr, Inhabited

/-- Answer a request. -/
def perform (session : CachedSession) : Request → Answer × CachedSession
  | .register item configuration rename =>
    match session.register item configuration rename with
    | .ok (id, session) => (.registered id, session)
    | .error diagnostics => (.refused diagnostics, session)
  | .ask id question =>
    let (reply, session) := session.reply id question
    (.replied reply, session)

/-- The session that is there after some requests. -/
def after (session : CachedSession) : List Request → CachedSession
  | [] => session
  | request :: rest => (session.perform request).2.after rest

/-- The requests with their answers, in order. -/
def transcript (session : CachedSession) : List Request → List (Request × Answer)
  | [] => []
  | request :: rest =>
    (request, (session.perform request).1) :: (session.perform request).2.transcript rest

end CachedSession

end Counterpart
