import ChangeOps.Admission.View

/-!
# ChangeOps.Admission — histories

A store is reached by the calls made on it, from an empty one. Every transaction is serialized, so
a history is a list, the latest call first, and the store after it is a function of the list.

What holds of every registry that is reached follows from the effects (`registry_induction`).
-/

namespace ChangeOps.Admission

section History

variable [Sha256]

/-- A call and what it met. -/
structure Event where
  call : Call
  ambient : Ambient

/-- The calls so far, the latest first. -/
abbrev History := List Event

/-- The records of a registry belong where they stand. -/
structure Placed (R : Registry) : Prop where
  user : ∀ {key user}, R.user key = some user →
    ∃ subject, key = userKey subject ∧ user.subject = Text.strip subject
  organization : ∀ {organizationId organization},
    R.organization organizationId = some organization →
      organization.organizationId = organizationId
  member : ∀ {organizationId key member}, R.member organizationId key = some member →
    member.organizationId = organizationId ∧ userKey member.subject.1 = key

theorem Shaped.placed {store : MemoryStore} (hs : Shaped store) : Placed (registry store) :=
  ⟨hs.user_subject, hs.organization_id, hs.member_ids⟩

variable [Casing]

/-- The store after some calls. -/
def after : History → MemoryStore
  | [] => .empty
  | event :: history => (event.call.run event.ambient (after history)).2

/-- The event returned without an exception. -/
def Succeeds (event : Event) (history : History) : Prop :=
  (event.call.run event.ambient (after history)).1 = .ok ()

instance (event : Event) (history : History) : Decidable (Succeeds event history) :=
  inferInstanceAs (Decidable (_ = _))

theorem shaped_after (history : History) : Shaped (after history) := by
  induction history with
  | nil => exact shaped_empty
  | cons event history ih =>
    rcases Call.run_cases ih event.ambient event.call with
      ⟨e, hrun⟩ | ⟨R', -, hcommitted, -⟩
    · rw [after, hrun]
      exact ih
    · exact hcommitted.1

theorem placed_after (history : History) : Placed (registry (after history)) :=
  (shaped_after history).placed

/-- **One more call.** It leaves the store as it is, or it has its effect. -/
theorem after_cons (event : Event) (history : History) :
    (after (event :: history) = after history ∧
        ∃ e, (event.call.run event.ambient (after history)).1 = .error e) ∨
      ∃ R', Effect event.ambient (registry (after history)) event.call R' ∧
        Committed event.ambient R' (after (event :: history)) ∧
        ((∀ identity token, event.call ≠ .redeem identity token) → Succeeds event history) := by
  rcases Call.run_cases (shaped_after history) event.ambient event.call with ⟨e, hrun⟩ | heffect
  · refine Or.inl ⟨?_, e, ?_⟩
    · rw [after, hrun]
    · rw [hrun]
  · exact Or.inr heffect

/-- A call that succeeds has had its effect. -/
theorem Succeeds.effect {event : Event} {history : History} (h : Succeeds event history) :
    ∃ R', Effect event.ambient (registry (after history)) event.call R' ∧
      Committed event.ambient R' (after (event :: history)) := by
  rcases after_cons event history with ⟨-, e, hraise⟩ | ⟨R', heffect, hcommitted, -⟩
  · rw [Succeeds, hraise] at h
    cases h
  · exact ⟨R', heffect, hcommitted⟩

/-- What is so of an empty registry, and kept by the effects, is so after every history. -/
theorem registry_induction {I : Registry → Prop} (hempty : I (registry .empty))
    (haudit : ∀ R id document, I R → I (R.putAudit id document))
    (hstep : ∀ {a R call R'}, Placed R → I R → Effect a R call R' → I R') (history : History) :
    I (registry (after history)) := by
  induction history with
  | nil => exact hempty
  | cons event history ih =>
    rcases after_cons event history with ⟨hsame, -⟩ | ⟨R', heffect, ⟨-, audit, -, heq⟩, -⟩
    · rw [hsame]
      exact ih
    · rw [heq]
      exact haudit _ _ _ (hstep (placed_after history) ih heffect)

/-! ## Redemptions -/

/-- A redemption that changes the store has passed its checks and its accesses. -/
theorem after_redeem {event : Event} {history : History} {identity : Identity} {token : String}
    (hcall : event.call = .redeem identity token) :
    after (event :: history) = after history ∨
      ∃ invitation, Redeems event.ambient (registry (after history)) identity token invitation := by
  have hafter : after (event :: history) =
      (redeem event.ambient identity token (after history)).2 := by
    rw [after, hcall]
    rfl
  rcases redeemOperation_runs (shaped_after history) event.ambient identity token with
    ⟨e, hrun⟩ | ⟨u, store', R', hrun, -⟩
  · left
    rw [hafter]
    unfold redeem
    rw [hrun]
  · right
    rw [← redeemOperation_ok_iff (shaped_after history), hrun]

/-- What a redemption that passes does to the registry. -/
theorem Redeems.registry_after {event : Event} {history : History} {identity : Identity}
    {token : String} {invitation : Invitation} (hcall : event.call = .redeem identity token)
    (h : Redeems event.ambient (registry (after history)) identity token invitation) :
    ∃ audit, registry (after (event :: history)) =
      ((((registry (after history)).putUser (userKey identity.subject.1)
        (((registry (after history)).userOf identity.subject).join invitation.organizationId
          h.redeemable.room)).putMember invitation.organizationId (userKey identity.subject.1)
            (invitation.member identity.subject)).putInvitation (Sha256.hexdigest token)
              (invitation.redeem identity.subject)).putAudit event.ambient.auditHex.eventId audit := by
  have hok := (redeemOperation_ok_iff (shaped_after history)).mpr ⟨invitation, h⟩
  rcases redeemOperation_runs (shaped_after history) event.ambient identity token with
    ⟨e, hrun⟩ | ⟨u, store', R', hrun, heffect, hcommitted⟩
  · rw [hrun] at hok
    cases hok
  · have hafter : after (event :: history) = store' := by
      rw [after, hcall]
      exact congrArg Prod.snd (redeem_of_committed hcommitted.1 hrun)
    obtain ⟨-, audit, -, heq⟩ := hcommitted
    refine ⟨audit.modelDump, ?_⟩
    rw [hafter, heq]
    cases heffect with
    | @redeem identity token invitation' hstored hredeemable =>
      have hsame := h.stored
      rw [hstored, Option.some.injEq] at hsame
      subst hsame
      rfl

/-- What it leaves at its own place. -/
theorem Redeems.creates {event : Event} {history : History} {identity : Identity} {token : String}
    {invitation : Invitation} (hcall : event.call = .redeem identity token)
    (h : Redeems event.ambient (registry (after history)) identity token invitation) :
    (registry (after (event :: history))).member invitation.organizationId
      (userKey identity.subject.1) = some (invitation.member identity.subject) := by
  obtain ⟨audit, heq⟩ := h.registry_after hcall
  rw [heq, Registry.putAudit_member, Registry.putInvitation_member, Registry.putMember_apply,
    if_pos ⟨rfl, rfl⟩]

end History

/-! ## An example

The owner creates an organization and invites somebody, who redeems the invitation. -/

namespace Demo

def token : String := "kkkkkkkkkkkkkkkkkkkkkkkkkkkkkkkkkkkkkkkkkkk"

/-- SHA-256 on the texts of the example, and no collision on the others. -/
def hexdigest (text : String) : String :=
  if text = "owner" then "4c1029697ee358715d3a14a2add817c4b01651440de808371f78165ac90dc581"
  else if text = "alice" then "2bd806c97f0e00af1a1fc3328fa763a9269723c8db8fac4f93af71db186d6e90"
  else if text = token then "a0484a6185b324e2f355194f334482fc79194cd805185155ddcf6804fdb9090a"
  else "?" ++ text

scoped instance digests : Sha256 := ⟨hexdigest⟩

scoped instance casing : Casing := ⟨fun text => String.ofList (text.toList.map Char.toLower)⟩

theorem hexdigest_injective : Function.Injective hexdigest := by
  have hmark : ∀ {digest text : String}, digest.toList.head? ≠ some '?' → digest ≠ "?" ++ text := by
    rintro digest text hhead rfl
    rw [String.toList_append] at hhead
    exact hhead rfl
  intro x y h
  unfold hexdigest at h
  split_ifs at h <;> subst_vars <;> first
    | rfl
    | exact (String.append_right_inj _).mp h
    | exact absurd h (by decide)
    | exact absurd h (hmark (by decide))
    | exact absurd h.symm (hmark (by decide))

theorem userKey_injective : Function.Injective userKey := hexdigest_injective

def owner : Identity :=
  ⟨⟨"owner", by decide +kernel⟩, ⟨"owner@example.com", by decide +kernel⟩, true, by decide +kernel⟩

def alice : Identity :=
  ⟨⟨"alice", by decide +kernel⟩, ⟨"Alice@example.com", by decide +kernel⟩, false, by decide +kernel⟩

theorem length_replicate_hex (c : Char) (h : isHexDigit c = true) :
    (String.ofList (List.replicate 32 c)).length = 32 ∧
      (String.ofList (List.replicate 32 c)).toList.all isHexDigit = true := by
  rw [String.length_ofList, String.toList_ofList, List.length_replicate]
  refine ⟨rfl, List.all_eq_true.mpr fun d hd => ?_⟩
  rw [List.eq_of_mem_replicate hd]
  exact h

def hex (c : Char) (h : isHexDigit c = true) : Hex :=
  ⟨String.ofList (List.replicate 32 c), length_replicate_hex c h⟩

/-- What the call met that drew the hexadecimal digit `c` all over. -/
def ambient (c : Char) (h : isHexDigit c = true) : Ambient :=
  ⟨token, hex c h, hex c h, 0, 0, fun _ => none, fun _ => none⟩

theorem isHexDigit_zero : isHexDigit '0' = true := by decide

theorem isHexDigit_one : isHexDigit '1' = true := by decide

theorem isHexDigit_two : isHexDigit '2' = true := by decide

theorem isHexDigit_three : isHexDigit '3' = true := by decide

def organizationId : Identifier := (hex '1' isHexDigit_one).organizationId

def bootstrap : Event := ⟨.bootstrapOwner "owner", ambient '0' isHexDigit_zero⟩

def create : Event := ⟨.createOrganization owner "Acme Corp", ambient '1' isHexDigit_one⟩

def invite : Event :=
  ⟨.invite owner ⟨alice.email, organizationId, .REQUESTER⟩, ambient '2' isHexDigit_two⟩

def redeem : Event := ⟨.redeem alice token, ambient '3' isHexDigit_three⟩

def invited : History := [invite, create, bootstrap]

def history : History := redeem :: invited

end Demo

end ChangeOps.Admission
