import Counterpart.CachedSession
import Counterpart.Sample.Chain

/-!
# Whole runs of a session

The hosts and the cells of their tables are two rows that grow together, and a cell that is filled
holds the table of the host at its place. So a cached session replies as its hosts would reply if
nothing were kept, and a host that is registered stays at its place. Whatever a run asks about it
is answered as by a session that knows no other host.
-/

namespace Counterpart

open CachedSession (Question Request Answer)

/-- What a host replies, if its table is drawn up for the question. -/
def Host.reply (host : Host) : Question → Generated CachedSession.Reply
  | .host => .ok (.host host)
  | .children => .members <$> host.members
  | .memberNames owner => (fun members => .names (Member.namesOf owner members)) <$> host.members
  | .emit => .emission <$> host.emission

namespace Session

/-- The table of the host with the given number, drawn up anew. -/
def table (session : Session) (id : Nat) : Generated (List Member) :=
  match session.host? id with
  | some host => host.members
  | none => .error .brokenTemplate

/-- The reply to a question about the host with the given number, if no table is kept. -/
def reply (session : Session) (id : Nat) (question : Question) :
    Generated CachedSession.Reply :=
  match session.host? id with
  | some host => host.reply question
  | none => .error .brokenTemplate

/-- What is emitted for a host is what an expansion emits for it. -/
theorem reply_emit (session : Session) (id : Nat) :
    session.reply id .emit = .emission <$> session.emit id := by
  rw [reply, emit]
  cases session.host? id <;> rfl

end Session

namespace CachedSession

/-- Every host has a cell, and a filled cell holds the table of its host. -/
structure Aligned (session : CachedSession) : Prop where
  length : session.tables.length = session.hosts.length
  drawn : ∀ {id : Nat} {members : List Member}, session.tables[id]? = some (some members) →
    session.toSession.table id = .ok members

/-- A session without hosts has no cells. -/
theorem aligned_empty : empty.Aligned := ⟨rfl, fun h => nomatch h⟩

variable {session : CachedSession}

/-- A cell is there exactly for the hosts that are known. -/
theorem Aligned.cell (aligned : session.Aligned) (id : Nat) :
    session.tables[id]? = none ↔ session.host? id = none := by
  simp [Session.host?, aligned.length]

/-- Filling the cell of a host with its table keeps the rows aligned. -/
theorem Aligned.fill (aligned : session.Aligned) {id : Nat} {members : List Member}
    (table : session.toSession.table id = .ok members) :
    Aligned { session with tables := session.tables.set id (some members) } := by
  refine ⟨by simp [aligned.length], fun {other found} hcell => ?_⟩
  by_cases same : id = other
  · subst same
    rw [List.getElem?_set_self'] at hcell
    cases hold : session.tables[id]? with
    | none => simp [hold] at hcell
    | some cell =>
      rw [hold] at hcell
      cases hcell
      exact table
  · rw [List.getElem?_set_ne same] at hcell
    exact aligned.drawn hcell

/-- Asking for a table gives the table that the host would draw up now. It fills at most a cell. -/
theorem Aligned.children (aligned : session.Aligned) (id : Nat) :
    ∃ later : CachedSession, session.children id = (session.toSession.table id, later) ∧
      later.toSession = session.toSession ∧ later.Aligned := by
  cases hcell : session.tables[id]? with
  | none =>
    refine ⟨session, ?_, rfl, aligned⟩
    simp only [CachedSession.children, hcell, Session.table, (aligned.cell id).mp hcell]
  | some cell =>
    cases cell with
    | some members =>
      refine ⟨session, ?_, rfl, aligned⟩
      simp only [CachedSession.children, hcell, aligned.drawn hcell]
    | none =>
      cases hhost : session.host? id with
      | none => exact absurd ((aligned.cell id).mpr hhost) (by simp [hcell])
      | some host =>
        have table : session.toSession.table id = host.members := by
          simp only [Session.table, hhost]
        cases hmembers : host.members with
        | error failure =>
          refine ⟨session, ?_, rfl, aligned⟩
          simp only [CachedSession.children, hcell, hhost, hmembers, table]
        | ok members =>
          refine ⟨{ session with tables := session.tables.set id (some members) }, ?_, rfl,
            aligned.fill (table.trans hmembers)⟩
          simp only [CachedSession.children, hcell, hhost, hmembers, table]

/-- A session replies as if no table were kept, and its hosts stay as they are. -/
theorem Aligned.reply (aligned : session.Aligned) (id : Nat) (question : Question) :
    ∃ later : CachedSession,
      session.reply id question = (session.toSession.reply id question, later) ∧
      later.toSession = session.toSession ∧ later.Aligned := by
  obtain ⟨later, hchildren, hosts, alignedLater⟩ := aligned.children id
  cases hhost : session.host? id with
  | none =>
    cases question <;>
      simp only [CachedSession.reply, Session.reply, Session.table, hchildren, hhost]
    case host | emit => exact ⟨session, rfl, rfl, aligned⟩
    case children | memberNames => exact ⟨later, rfl, hosts, alignedLater⟩
  | some host =>
    cases question <;>
      simp only [CachedSession.reply, Session.reply, Session.table, Host.reply, hchildren, hhost]
    case host => exact ⟨session, rfl, rfl, aligned⟩
    case children | memberNames | emit => exact ⟨later, rfl, hosts, alignedLater⟩

/-! ## One request -/

/-- A struct that passes all checks stands behind the hosts that were there. -/
theorem perform_register_of_ok {item : StructItem} {configuration : Configuration}
    {rename : Option (Located Ident)} {host : Host}
    (h : Host.ofStruct item configuration rename = .ok host) :
    session.perform (.register item configuration rename) =
      (.registered session.hosts.length,
        ⟨⟨session.hosts ++ [host]⟩, session.tables ++ [none]⟩) := by
  simp only [perform, register, Session.register, h, bind, Except.bind, pure, Except.pure]

/-- A struct that fails a check leaves the session as it is. -/
theorem perform_register_of_error {item : StructItem} {configuration : Configuration}
    {rename : Option (Located Ident)} {diagnostics : List Diagnostic}
    (h : Host.ofStruct item configuration rename = .error diagnostics) :
    session.perform (.register item configuration rename) = (.refused diagnostics, session) := by
  simp only [perform, register, Session.register, h, bind, Except.bind]

/-- A question is answered as if no table were kept, and the hosts stay as they are. -/
theorem Aligned.perform_ask (aligned : session.Aligned) (id : Nat) (question : Question) :
    ∃ later : CachedSession, session.perform (.ask id question) =
        (.replied (session.toSession.reply id question), later) ∧
      later.toSession = session.toSession ∧ later.Aligned := by
  obtain ⟨later, hreply, rest⟩ := aligned.reply id question
  exact ⟨later, by simp only [perform, hreply], rest⟩

/-- The host that a request registers. -/
def Request.host? : Request → Option Host
  | .register item configuration rename => (Host.ofStruct item configuration rename).toOption
  | .ask _ _ => none

/-- Whether a host is registered. -/
def Answer.isRegistered : Answer → Bool
  | .registered _ => true
  | .refused _ | .replied _ => false

/-- A request keeps the rows aligned, and adds to the hosts what it registers. -/
theorem Aligned.perform (aligned : session.Aligned) (request : Request) :
    (session.perform request).2.Aligned ∧
      (session.perform request).2.hosts = session.hosts ++ request.host?.toList ∧
      (session.perform request).1.isRegistered = request.host?.isSome := by
  cases request with
  | ask id question =>
    obtain ⟨later, hperform, hosts, alignedLater⟩ := aligned.perform_ask id question
    rw [hperform]
    exact ⟨alignedLater, by simp [hosts, Request.host?], rfl⟩
  | register item configuration rename =>
    cases h : Host.ofStruct item configuration rename with
    | error diagnostics =>
      simp only [perform_register_of_error h, Request.host?, h]
      exact ⟨aligned, by simp [Except.toOption], rfl⟩
    | ok host =>
      simp only [perform_register_of_ok h, Request.host?, h]
      refine ⟨⟨by simp [aligned.length], fun {id members} hcell => ?_⟩, by simp [Except.toOption],
        rfl⟩
      -- The new cell is empty, so a filled one belongs to a host that was there.
      have known : id < session.tables.length := by
        refine Nat.lt_of_not_le fun past => ?_
        rw [List.getElem?_append_right past] at hcell
        simp [List.getElem?_singleton] at hcell
      rw [List.getElem?_append_left known] at hcell
      have table := aligned.drawn hcell
      rw [aligned.length] at known
      simpa only [Session.table, Session.host?, List.getElem?_append_left known] using table

/-! ## A run -/

/-- A run of two parts is the second part after the first. -/
theorem transcript_append (session : CachedSession) (earlier later : List Request) :
    session.transcript (earlier ++ later) =
      session.transcript earlier ++ (session.after earlier).transcript later := by
  induction earlier generalizing session with
  | nil => rfl
  | cons request rest ih => simp only [List.cons_append, transcript, after, ih]

/-- A run keeps the rows aligned, and adds to the hosts what it registers. -/
theorem Aligned.after (aligned : session.Aligned) (requests : List Request) :
    (session.after requests).Aligned ∧
      (session.after requests).hosts = session.hosts ++ requests.filterMap Request.host? := by
  induction requests generalizing session with
  | nil => exact ⟨aligned, by simp [CachedSession.after]⟩
  | cons request rest ih =>
    obtain ⟨alignedNext, hosts, -⟩ := aligned.perform request
    obtain ⟨alignedLast, hostsLast⟩ := ih alignedNext
    refine ⟨alignedLast, ?_⟩
    rw [CachedSession.after, hostsLast, hosts, List.append_assoc]
    cases hhost : request.host? <;> simp [hhost]

/-- As many answers tell of a registered host as there are hosts. -/
theorem Aligned.countP_isRegistered (aligned : session.Aligned) (requests : List Request) :
    session.hosts.length + (session.transcript requests).countP (·.2.isRegistered) =
      (session.after requests).hosts.length := by
  rw [(aligned.after requests).2, List.length_append, Nat.add_left_cancel_iff]
  induction requests generalizing session with
  | nil => rfl
  | cons request rest ih =>
    obtain ⟨alignedNext, -, registered⟩ := aligned.perform request
    rw [transcript, List.countP_cons, ih alignedNext]
    cases hhost : request.host? <;> simp [hhost, registered]

/-- A host that is registered in a run is the one with its number at the end of the run. -/
theorem Aligned.host?_of_mem_transcript (aligned : session.Aligned) {requests : List Request}
    {item : StructItem} {configuration : Configuration} {rename : Option (Located Ident)}
    {id : Nat}
    (h : (.register item configuration rename, .registered id) ∈ session.transcript requests) :
    ∃ host, Host.ofStruct item configuration rename = .ok host ∧
      (session.after requests).host? id = some host := by
  induction requests generalizing session with
  | nil => exact absurd h List.not_mem_nil
  | cons request rest ih =>
    rcases List.mem_cons.mp h with first | later
    · obtain ⟨rfl, answered⟩ := Prod.mk.inj first
      cases hhost : Host.ofStruct item configuration rename with
      | error diagnostics =>
        rw [perform_register_of_error hhost] at answered
        cases answered
      | ok host =>
        rw [perform_register_of_ok hhost] at answered
        cases answered
        refine ⟨host, rfl, ?_⟩
        rw [Session.host?, (aligned.after _).2]
        simp [Request.host?, hhost, Except.toOption]
    · exact ih (aligned.perform request).1 later

/-- A number that a run gives to no struct is that of a host from before, or of none. -/
theorem Aligned.exists_mem_transcript (aligned : session.Aligned) (requests : List Request)
    {id : Nat} (fresh : session.hosts.length ≤ id)
    (known : id < (session.after requests).hosts.length) :
    ∃ item configuration rename,
      (.register item configuration rename, .registered id) ∈ session.transcript requests := by
  induction requests generalizing session with
  | nil => exact absurd known (Nat.not_lt.mpr fresh)
  | cons request rest ih =>
    obtain ⟨alignedNext, hosts, -⟩ := aligned.perform request
    by_cases next : (session.perform request).2.hosts.length ≤ id
    · obtain ⟨item, configuration, rename, hmem⟩ := ih alignedNext next known
      exact ⟨item, configuration, rename, List.mem_cons_of_mem _ hmem⟩
    · rw [hosts, List.length_append] at next
      cases request with
      | ask other question => exact absurd fresh next
      | register item configuration rename =>
        cases hhost : Host.ofStruct item configuration rename with
        | error diagnostics =>
          rw [Request.host?, hhost] at next
          exact absurd fresh next
        | ok host =>
          simp only [Request.host?, hhost, Except.toOption, Option.toList_some,
            List.length_singleton] at next
          obtain rfl : id = session.hosts.length := by omega
          refine ⟨item, configuration, rename, List.mem_cons.mpr (.inl ?_)⟩
          rw [perform_register_of_ok hhost]

/-- A session that only registers a struct and is asked about it replies as its host does. -/
theorem transcript_alone {item : StructItem} {configuration : Configuration}
    {rename : Option (Located Ident)} {host : Host}
    (h : Host.ofStruct item configuration rename = .ok host) (question : Question) :
    empty.transcript [.register item configuration rename, .ask 0 question] =
      [(.register item configuration rename, .registered 0),
        (.ask 0 question, .replied (host.reply question))] := by
  obtain ⟨later, hperform, -⟩ :=
    (aligned_empty.perform (.register item configuration rename)).1.perform_ask 0 question
  simp only [transcript, perform_register_of_ok h] at hperform ⊢
  rw [hperform]
  rfl

/-- Every request of a run from the empty session is answered as its place in the run demands.

A struct that is refused leaves the session as it is, and one that is registered has the number of
hosts that were registered in front of it. A question about the number that a struct was given is
answered as in the run that only registers this struct and asks; a number that no struct was given
ends the expansion. What comes later has no influence. -/
theorem run_answers_alone (earlier later : List Request) (request : Request) :
    let session := empty.after earlier
    let answer := (session.perform request).1
    let next := (session.perform request).2
    empty.transcript (earlier ++ request :: later) =
        empty.transcript earlier ++ (request, answer) :: next.transcript later ∧
      (∀ item configuration rename, request = .register item configuration rename →
        (∃ diagnostics, Host.ofStruct item configuration rename = .error diagnostics ∧
          answer = .refused diagnostics ∧ next = session) ∨
        (∃ host, Host.ofStruct item configuration rename = .ok host ∧
          answer = .registered ((empty.transcript earlier).countP (·.2.isRegistered)))) ∧
      (∀ id question, request = .ask id question →
        (∀ item configuration rename,
          (.register item configuration rename, .registered id) ∈ empty.transcript earlier →
          empty.transcript [.register item configuration rename, .ask 0 question] =
            [(.register item configuration rename, .registered 0), (.ask 0 question, answer)]) ∧
        ((∀ item configuration rename,
          (.register item configuration rename, .registered id) ∉ empty.transcript earlier) →
          answer = .replied (.error .brokenTemplate))) := by
  intro session answer next
  have aligned : session.Aligned := (aligned_empty.after earlier).1
  refine ⟨transcript_append empty earlier (request :: later), ?_, ?_⟩
  · rintro item configuration rename rfl
    cases hhost : Host.ofStruct item configuration rename with
    | error diagnostics =>
      refine .inl ⟨diagnostics, rfl, ?_, ?_⟩
      · simp only [answer, perform_register_of_error hhost]
      · simp only [next, perform_register_of_error hhost]
    | ok host =>
      refine .inr ⟨host, rfl, ?_⟩
      have count := aligned_empty.countP_isRegistered earlier
      simp only [answer, perform_register_of_ok hhost, session, ← count]
      simp [empty, Session.empty]
  · rintro id question rfl
    obtain ⟨later, hperform, -⟩ := aligned.perform_ask id question
    have replied : answer = .replied (session.toSession.reply id question) := by
      simp only [answer, hperform]
    refine ⟨fun item configuration rename registered => ?_, fun unknown => ?_⟩
    · obtain ⟨host, hhost, found⟩ := aligned_empty.host?_of_mem_transcript registered
      rw [transcript_alone hhost, replied, Session.reply, found]
    · have absent : session.host? id = none := by
        rw [Session.host?, List.getElem?_eq_none_iff]
        refine Nat.le_of_not_lt fun known => ?_
        obtain ⟨item, configuration, rename, hmem⟩ :=
          aligned_empty.exists_mem_transcript earlier (Nat.zero_le id) known
        exact unknown item configuration rename hmem
      rw [replied, Session.reply, absent]

/-- A run with a refused struct, another host and repeated questions about the sample host. -/
def mixedRequests : List Request :=
  [.register { Sample.chain with fields := .unit } .standard none,
    .register Sample.chain .standard none, .ask 0 .children,
    .register Sample.chain .standard (some (.generated (.plain "Other"))), .ask 1 .emit,
    .ask 0 (.memberNames .counterpart)]

/-- In a mixed run the sample host takes the first number, and is emitted as it is alone. -/
theorem run_answers_alone_mixed :
    (.register Sample.chain .standard none, .registered 0) ∈ empty.transcript mixedRequests ∧
      empty.transcript [.register Sample.chain .standard none, .ask 0 .emit] =
        [(.register Sample.chain .standard none, .registered 0),
          (.ask 0 .emit, ((empty.after mixedRequests).perform (.ask 0 .emit)).1)] := by
  have registered :
      (.register Sample.chain .standard none, .registered 0) ∈ empty.transcript mixedRequests :=
    .tail _ (.head _)
  exact ⟨registered, ((run_answers_alone mixedRequests [] (.ask 0 .emit)).2.2 0 .emit rfl).1
    Sample.chain .standard none registered⟩

end CachedSession

end Counterpart
