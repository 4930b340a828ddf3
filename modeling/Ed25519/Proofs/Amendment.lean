import Ed25519.Report
import Mathlib.Data.List.Induction

/-!
# What amendments come to

Of the amendments to a report, the last one of its context and the last one of its message count, and
nothing else of them does (`Report.foldl_amend`). They come to a revision of the report
(`Report.revise`): one amendment turns a revision into another (`Report.amend_revise`), and so do any
number of them, in turn.

A result whose failure is amended is that result with its failure told by the amended report
(`Report.amendAll_eq`), so the same holds of it (`Report.last_amendments_decide`).
-/

namespace Ed25519

/-- The content with another message, if one is given. A length has no message to be replaced. -/
def Content.revise (message? : Option String) : Content → Content
  | .text t m => .text t (message?.getD m)
  | .length x y => .length x y

namespace Report

/-! ## Revisions -/

/-- The report in another context and with another message, as far as these are given. -/
def revise (r : Report) (context? message? : Option String) : Report where
  context := context?.getD r.context
  content := r.content.revise message?

namespace Amendment

/-- The context that an amendment sets. -/
def context? : Amendment → Option String
  | context s => some s
  | message _ => none

/-- The message that an amendment sets. -/
def message? : Amendment → Option String
  | context _ => none
  | message s => some s

/-- Two amendments are of the same part of a report. -/
def SamePart : Amendment → Amendment → Prop
  | context _, context _ | message _, message _ => True
  | _, _ => False

end Amendment

/-- The last context that is set in a sequence of amendments. -/
def lastContext? (as : List Amendment) : Option String :=
  (as.filterMap Amendment.context?).getLast?

/-- The last message that is set in a sequence of amendments. -/
def lastMessage? (as : List Amendment) : Option String :=
  (as.filterMap Amendment.message?).getLast?

theorem lastContext?_append (as bs : List Amendment) :
    lastContext? (as ++ bs) = (lastContext? bs).or (lastContext? as) := by
  rw [lastContext?, List.filterMap_append, List.getLast?_append]
  rfl

theorem lastMessage?_append (as bs : List Amendment) :
    lastMessage? (as ++ bs) = (lastMessage? bs).or (lastMessage? as) := by
  rw [lastMessage?, List.filterMap_append, List.getLast?_append]
  rfl

theorem lastContext?_singleton (a : Amendment) : lastContext? [a] = a.context? := by
  cases a <;> rfl

theorem lastMessage?_singleton (a : Amendment) : lastMessage? [a] = a.message? := by
  cases a <;> rfl

theorem revise_none (r : Report) : r.revise none none = r := by
  obtain ⟨c, content⟩ := r
  cases content <;> rfl

/-- One amendment of a revision is a revision again: what the amendment sets takes the place of what
was given, and the rest stays. -/
theorem amend_revise (r : Report) (c m : Option String) (a : Amendment) :
    (r.revise c m).amend a = r.revise (a.context?.or c) (a.message?.or m) := by
  obtain ⟨_, content⟩ := r
  cases a with
  | context s => rfl
  | message s => cases content <;> rfl

/-- **Amendments in turn come to one revision**, by the last context and the last message. -/
theorem foldl_amend (r : Report) (as : List Amendment) :
    as.foldl amend r = r.revise (lastContext? as) (lastMessage? as) := by
  -- from the end, since it is the later amendment that prevails
  induction as using List.reverseRecOn with
  | nil => exact (revise_none r).symm
  | append_singleton as a ih =>
    rw [List.foldl_append, ih, List.foldl_cons, List.foldl_nil, amend_revise, lastContext?_append,
      lastMessage?_append, lastContext?_singleton, lastMessage?_singleton]

/-- No revision changes what a report says of a signature: that is settled by its topic. -/
theorem isInvalidSignature_revise (r : Report) (c m : Option String) :
    (r.revise c m).isInvalidSignature = r.isInvalidSignature := by
  obtain ⟨_, content⟩ := r
  cases content with
  | length x y => rfl
  | text t s => cases t <;> rfl

/-! ## Results -/

variable {ε α : Type} [Reportable ε]

theorem foldl_amendResult (x : Except Report α) (as : List Amendment) :
    as.foldl amendResult x = x.mapError fun r => as.foldl amend r := by
  induction as generalizing x with
  | nil => cases x <;> rfl
  | cons a as ih =>
    rw [List.foldl_cons, ih]
    cases x <;> rfl

/-- A failure is told by its report once, whatever is amended. -/
theorem amendAll_eq (x : Except ε α) (as : List Amendment) :
    amendAll x as = x.mapError fun err => as.foldl amend (Reportable.report err) := by
  cases as with
  | nil => rfl
  | cons a as =>
    rw [amendAll, foldl_amendResult]
    cases x <;> rfl

/-- Amendments with one last context and one last message make one result of it. -/
theorem amendAll_congr {as bs : List Amendment} (hc : lastContext? as = lastContext? bs)
    (hm : lastMessage? as = lastMessage? bs) (x : Except ε α) : amendAll x as = amendAll x bs := by
  simp only [amendAll_eq, foldl_amend, hc, hm]

/-- Amendments of the context and of the message change places. -/
theorem amendAll_comm (x : Except ε α) (as bs : List Amendment) (s s' : String) :
    amendAll x (as ++ [.context s, .message s'] ++ bs) =
      amendAll x (as ++ [.message s', .context s] ++ bs) := by
  refine amendAll_congr ?_ ?_ x
  · simp only [lastContext?_append]
    rfl
  · simp only [lastMessage?_append]
    rfl

/-- An amendment gives way to a later one of the same part. -/
theorem amendAll_absorb {a a' : Amendment} (h : a.SamePart a') (x : Except ε α)
    (as bs cs : List Amendment) :
    amendAll x (as ++ [a] ++ bs ++ [a'] ++ cs) = amendAll x (as ++ bs ++ [a'] ++ cs) := by
  refine amendAll_congr ?_ ?_ x
  · simp only [lastContext?_append]
    match a, a', h with
    | .context _, .context _, _ | .message _, .message _, _ => rfl
  · simp only [lastMessage?_append]
    match a, a', h with
    | .context _, .context _, _ | .message _, .message _, _ => rfl

/-- **The last context and the last message decide.** A success stays as it is, and a failure is told
by its report, amended. The report keeps its topic, or its lengths, which no message replaces; its
context and its message are the last ones set, where any were. So amendments of different parts
change places, and each gives way to a later one of the same part. -/
theorem last_amendments_decide (α : Type) (as : List Amendment) :
    (∀ a : α, amendAll (.ok a : Except Report α) as = .ok a ∧
      amendAll (.ok a : Except Error α) as = .ok a) ∧
    (∀ r : Report, amendAll (.error r : Except Report α) as = .error (as.foldl amend r)) ∧
    (∀ err : Error,
      amendAll (.error err : Except Error α) as = .error (as.foldl amend err.toReport)) ∧
    (∀ c t m, as.foldl amend ⟨c, .text t m⟩ =
      ⟨(lastContext? as).getD c, .text t ((lastMessage? as).getD m)⟩) ∧
    (∀ c x y, as.foldl amend ⟨c, .length x y⟩ = ⟨(lastContext? as).getD c, .length x y⟩) ∧
    ∀ (ε : Type) [Reportable ε] (x : Except ε α) (bs cs : List Amendment) (s s' : String),
      amendAll x (as ++ [.context s, .message s'] ++ bs) =
        amendAll x (as ++ [.message s', .context s] ++ bs) ∧
      amendAll x (as ++ [.context s] ++ bs ++ [.context s'] ++ cs) =
        amendAll x (as ++ bs ++ [.context s'] ++ cs) ∧
      amendAll x (as ++ [.message s] ++ bs ++ [.message s'] ++ cs) =
        amendAll x (as ++ bs ++ [.message s'] ++ cs) := by
  refine ⟨fun a => ⟨amendAll_eq _ as, amendAll_eq _ as⟩, fun r => amendAll_eq _ as,
    fun err => amendAll_eq _ as, fun c t m => foldl_amend _ as, fun c x y => foldl_amend _ as, ?_⟩
  intro ε _ x bs cs s s'
  have hcontext : (Amendment.context s).SamePart (.context s') := trivial
  have hmessage : (Amendment.message s).SamePart (.message s') := trivial
  exact ⟨amendAll_comm x as bs s s', amendAll_absorb hcontext x as bs cs,
    amendAll_absorb hmessage x as bs cs⟩

end Report

end Ed25519
