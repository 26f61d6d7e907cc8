import Counterpart.Emission

/-!
# Sessions

A session registers hosts and answers questions about them. Hosts are known by the number of
hosts that were registered before. A struct that fails a check is not registered and takes no
number.
-/

namespace Counterpart

/-- The hosts that were registered, in order. -/
structure Session where
  hosts : List Host
deriving Repr, Inhabited

namespace Session

/-- A session without hosts. -/
def empty : Session := ⟨[]⟩

/-- Register a struct, if it passes all checks. The answer has the number of the new host. -/
def register (session : Session) (item : StructItem) (configuration : Configuration)
    (rename : Option (Located Ident)) : Checked (Nat × Session) := do
  let host ← Host.ofStruct item configuration rename
  pure (session.hosts.length, ⟨session.hosts ++ [host]⟩)

/-- The host with the given number. -/
def host? (session : Session) (id : Nat) : Option Host := session.hosts[id]?

/-- What is emitted for the host with the given number. A number that is not known ends the
expansion at once. -/
def emit (session : Session) (id : Nat) : Generated Emission :=
  match session.host? id with
  | some host => host.emission
  | none => .error .brokenTemplate

/-- A struct that is registered passed all checks. It stands behind the hosts that were there. -/
theorem register_eq_ok {session later : Session} {item : StructItem}
    {configuration : Configuration} {rename : Option (Located Ident)} {id : Nat}
    (h : session.register item configuration rename = .ok (id, later)) :
    ∃ host, Host.ofStruct item configuration rename = .ok host ∧ id = session.hosts.length ∧
      later = ⟨session.hosts ++ [host]⟩ := by
  unfold register at h
  cases hhost : Host.ofStruct item configuration rename with
  | error found => simp [hhost, bind, Except.bind] at h
  | ok host =>
    simp only [hhost, bind, Except.bind, pure, Except.pure, Except.ok.injEq, Prod.mk.injEq] at h
    exact ⟨host, rfl, h.1.symm, h.2.symm⟩

/-- Registering does not disturb the hosts that are there. -/
theorem host?_register {session later : Session} {item : StructItem}
    {configuration : Configuration} {rename : Option (Located Ident)} {new id : Nat}
    (h : session.register item configuration rename = .ok (new, later))
    (known : id < session.hosts.length) : later.host? id = session.host? id := by
  obtain ⟨host, -, -, rfl⟩ := register_eq_ok h
  simp [host?, List.getElem?_append_left known]

end Session

end Counterpart
