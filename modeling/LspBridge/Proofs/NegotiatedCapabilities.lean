import LspBridge.Server.Handshake
import Mathlib
/-!
# Negotiated capabilities keep every representable entry

The client reads the `capabilities` object of an `initialize` result twice: as sent, and typed by
a reader of capabilities objects. `typedCapabilities` first reads the whole object; when that
fails it keeps the members that read on their own and reads those together, and falls back on the
empty view only if even that fails.

The reader is the one piece taken from outside: all this file assumes of it is that it reads each
capability on its own (`ReadsMembersApart`): an object reads exactly when each of its one-member
objects does. The client's own reader, from the table of capability shapes, does
(`readCapabilities_apart`).

Main statement (`negotiated_keeps_representable`): a result is refused, for want of a capabilities
object, exactly when it has no object-valued `capabilities`; otherwise the raw object is kept as
sent, `supports` tells a provider announced with a value other than null or false, and the typed
view is the reading of exactly the members that read on their own. That reading always succeeds,
so the empty view is never fallen back on, and when the whole object reads the two paths agree: no
member that reads is lost because another does not.
-/

namespace LspBridge

namespace Server

open Json

/-- A reader of capabilities objects reads each capability on its own: an object reads exactly
when each of its one-member objects does. -/
def ReadsMembersApart (read : List (String × Value) → Option (List (String × Value))) : Prop :=
  ∀ members, (read members).isSome ↔ ∀ member ∈ members, (read [member]).isSome

section Reader

variable {read : List (String × Value) → Option (List (String × Value))}

/-- The members that read on their own read together. -/
theorem read_accepted_isSome (apart : ReadsMembersApart read) (raw : List (String × Value)) :
    (read (raw.filter fun member => (read [member]).isSome)).isSome := by
  rw [apart]
  intro member kept
  exact (List.mem_filter.mp kept).2

/-- When the whole object reads, every member reads on its own and none is left out. -/
theorem filter_accepted_of_reads (apart : ReadsMembersApart read) {raw : List (String × Value)}
    (reads : (read raw).isSome) : raw.filter (fun member => (read [member]).isSome) = raw :=
  List.filter_eq_self.mpr fun member mem => (apart raw).mp reads member mem

/-- The typed view is the reading of exactly the members that read on their own, and that
reading succeeds. -/
theorem read_accepted_eq_typed (apart : ReadsMembersApart read) (raw : List (String × Value)) :
    read (raw.filter fun member => (read [member]).isSome) = some (typedCapabilities read raw) := by
  cases whole : read raw with
  | some typed =>
    rw [filter_accepted_of_reads apart (by simp [whole]), whole]
    simp [typedCapabilities, whole]
  | none =>
    obtain ⟨typed, found⟩ := Option.isSome_iff_exists.mp (read_accepted_isSome apart raw)
    simp [typedCapabilities, whole, found]

end Reader

/-! ### The client's own reader -/

theorem capabilityReads_of_typed {key : String} {value : Value}
    (typed : Lsp.typedCapability key value = true) : Lsp.capabilityReads key value = true := by
  unfold Lsp.typedCapability at typed
  unfold Lsp.capabilityReads
  cases found : Lsp.serverCapabilities.lookup key with
  | none => rfl
  | some shape =>
    rw [found] at typed
    simp_all

theorem readCapabilities_single (member : String × Value) :
    (Lsp.readCapabilities [member]).isSome = Lsp.capabilityReads member.1 member.2 := by
  cases reads : Lsp.capabilityReads member.1 member.2 <;> simp [Lsp.readCapabilities, reads]

theorem readCapabilities_of_all {members : List (String × Value)}
    (all : members.all (fun member => Lsp.capabilityReads member.1 member.2) = true) :
    Lsp.readCapabilities members =
      some (members.filter fun member => Lsp.typedCapability member.1 member.2) := by
  simp only [Lsp.readCapabilities, all, if_true]

/-- The client's reader reads each capability on its own. -/
theorem readCapabilities_apart : ReadsMembersApart Lsp.readCapabilities := by
  intro members
  simp only [readCapabilities_single]
  by_cases all : members.all fun member => Lsp.capabilityReads member.1 member.2
  · simp only [Lsp.readCapabilities, all, if_true, Option.isSome_some, true_iff]
    simpa using all
  · simp only [Lsp.readCapabilities, all, Bool.false_eq_true, if_false, Option.isSome_none,
      false_iff]
    simpa using all

/-- With the client's reader, the typed view holds exactly the known capabilities given a value of
their shape, in order. -/
theorem typedCapabilities_readCapabilities (raw : List (String × Value)) :
    typedCapabilities Lsp.readCapabilities raw =
      raw.filter fun member => Lsp.typedCapability member.1 member.2 := by
  have accepted := read_accepted_eq_typed readCapabilities_apart raw
  have allRead : (raw.filter fun member => (Lsp.readCapabilities [member]).isSome).all
      (fun member => Lsp.capabilityReads member.1 member.2) = true := by
    simp only [List.all_eq_true, List.mem_filter, readCapabilities_single]
    exact fun member kept => kept.2
  rw [readCapabilities_of_all allRead, Option.some.injEq] at accepted
  rw [← accepted, List.filter_filter]
  apply List.filter_congr
  intro member _
  cases typed : Lsp.typedCapability member.1 member.2
  · simp
  · simp [readCapabilities_single, capabilityReads_of_typed typed]

/-! ### Reading an `initialize` result -/

theorem ofResultWith_error_iff (read : List (String × Value) → Option (List (String × Value)))
    (result : Value) (e : String) :
    Negotiated.ofResultWith read result = .error e ↔
      e = noCapabilities ∧ ∀ raw, result.get? "capabilities" ≠ some (.object raw) := by
  unfold Negotiated.ofResultWith
  cases found : result.get? "capabilities" with
  | none => simp [eq_comm]
  | some caps =>
    cases caps
    case object raw => simp [pure, Except.pure]
    all_goals simp [eq_comm]

theorem ofResultWith_ok {read : List (String × Value) → Option (List (String × Value))}
    {result : Value} {n : Negotiated} (read_ok : Negotiated.ofResultWith read result = .ok n) :
    result.get? "capabilities" = some (.object n.raw) ∧ n.typed = typedCapabilities read n.raw ∧
      n.serverInfo = (result.get? "serverInfo").bind ServerInfo.ofValue? := by
  unfold Negotiated.ofResultWith at read_ok
  cases found : result.get? "capabilities" with
  | none => simp [found] at read_ok
  | some caps =>
    cases caps
    case object raw =>
      simp only [found, pure, Except.pure, Except.ok.injEq] at read_ok
      subst read_ok
      exact ⟨rfl, rfl, rfl⟩
    all_goals simp [found] at read_ok

/-- A provider is supported when it is announced with a value other than null or false. -/
theorem Negotiated.supports_iff (n : Negotiated) (provider : String) :
    n.supports provider = true ↔
      ∃ v, lookupMember provider n.raw = some v ∧ v ≠ .null ∧ v ≠ .bool false := by
  unfold Negotiated.supports
  cases found : lookupMember provider n.raw with
  | none => simp
  | some v =>
    cases v
    case bool b => cases b <;> simp
    all_goals simp

/-- What the client keeps of an `initialize` result, read with `read`: refused exactly for want of
an object-valued `capabilities`; otherwise that object as sent, the server information when it
reads, `supports` as announced, and as typed view the reading of exactly the members that read on
their own, which agrees with the reading of the whole object when that succeeds. -/
structure KeepsRepresentable (read : List (String × Value) → Option (List (String × Value)))
    (result : Value) : Prop where
  refused : ∀ e, Negotiated.ofResultWith read result = .error e ↔
    e = noCapabilities ∧ ∀ raw, result.get? "capabilities" ≠ some (.object raw)
  raw : ∀ n, Negotiated.ofResultWith read result = .ok n →
    result.get? "capabilities" = some (.object n.raw)
  serverInfo : ∀ n, Negotiated.ofResultWith read result = .ok n →
    n.serverInfo = (result.get? "serverInfo").bind ServerInfo.ofValue?
  supports : ∀ n, Negotiated.ofResultWith read result = .ok n → ∀ provider,
    n.supports provider = true ↔
      ∃ v, lookupMember provider n.raw = some v ∧ v ≠ .null ∧ v ≠ .bool false
  typed : ∀ n, Negotiated.ofResultWith read result = .ok n →
    read (n.raw.filter fun member => (read [member]).isSome) = some n.typed
  agree : ∀ n, Negotiated.ofResultWith read result = .ok n → ∀ whole, read n.raw = some whole →
    read (n.raw.filter fun member => (read [member]).isSome) = some whole

/-- Negotiated capabilities keep every representable entry: for every `initialize` result, with a
reader that reads each capability on its own, the client keeps what `KeepsRepresentable` says. -/
theorem negotiated_keeps_representable
    (read : List (String × Value) → Option (List (String × Value)))
    (apart : ReadsMembersApart read) (result : Value) : KeepsRepresentable read result where
  refused := ofResultWith_error_iff read result
  raw _ read_ok := (ofResultWith_ok read_ok).1
  serverInfo _ read_ok := (ofResultWith_ok read_ok).2.2
  supports n _ := n.supports_iff
  typed n read_ok := by
    rw [(ofResultWith_ok read_ok).2.1]
    exact read_accepted_eq_typed apart n.raw
  agree n _ whole reads := by
    rw [filter_accepted_of_reads apart (by simp [reads])]
    exact reads

/-- A server announcing completion as a bare flag, which has no typed form, beside a hover flag:
the client's reader reads each capability on its own, and the result is kept as stated. -/
theorem negotiated_keeps_representable_completion_flag :
    ReadsMembersApart Lsp.readCapabilities ∧
      KeepsRepresentable Lsp.readCapabilities
        (.object [("capabilities", .object [("completionProvider", .bool true),
          ("hoverProvider", .bool true)]), ("serverInfo", .object [("name", .string "sts")])]) :=
  ⟨readCapabilities_apart, negotiated_keeps_representable _ readCapabilities_apart _⟩

end Server

end LspBridge
