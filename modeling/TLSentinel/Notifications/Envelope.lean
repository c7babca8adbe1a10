/-
  TLSentinel.Notifications.Envelope
  ─────────────────────────────────
  **THE ADDRESSES THAT MAIL AND RCPT ARE GIVEN.**

  `validateEmailPtr` of the users and `validateHeaders` of the sender ask that
  `mail.ParseAddress` has no error, and throw away the address that it parses.  What
  `writeMessage` passes to the client is the text as it was typed, with the name, the
  angle brackets and the comments that the parser takes; RFC 5321 has none of these
  between its own angle brackets.

  Main result:
    * `envelope_isAddrSpec_iff` — when the text that is passed is an `addr-spec`.
-/
import TLSentinel.Foundation.MailAddr
import TLSentinel.Notifications.MailMessage
import TLSentinel.Users.Handlers

namespace TLSentinel.Notifications.Envelope

open Foundation
open Foundation.MailAddr
open MailMessage (Client)

/-! ## §1. The calls of `writeMessage`. -/

/-- A call of the client. -/
inductive Call where
  | mail (fromAddr : String)
  | rcpt (recipient : String)
  | data
  | write (msg : String)
  | close
  deriving DecidableEq, Repr

/-- The call has no error. -/
def Call.succeeds (c : Client) : Call → Bool
  | .mail fromAddr => c.mail fromAddr
  | .rcpt recipient => c.rcpt recipient
  | .data => c.data
  | .write msg => c.write msg
  | .close => c.close

/-- The calls that `writeMessage` would make, in order. -/
def script (fromAddr recipient msg : String) : List Call :=
  [.mail fromAddr, .rcpt recipient, .data, .write msg, .close]

/-- Calls in order, up to the first that fails. -/
def made (c : Client) : List Call → List Call
  | [] => []
  | call :: rest => call :: if call.succeeds c then made c rest else []

/-- The calls that `writeMessage` makes. -/
def calls (c : Client) (fromAddr recipient msg : String) : List Call :=
  made c (script fromAddr recipient msg)

/-- The address that a call passes to the server. -/
def Call.address : Call → Option String
  | .mail fromAddr => some fromAddr
  | .rcpt recipient => some recipient
  | _ => none

/-- The addresses in the envelope of a message. -/
def addresses (c : Client) (fromAddr recipient msg : String) : List String :=
  (calls c fromAddr recipient msg).filterMap Call.address

/-- A server that holds to SMTP: MAIL and RCPT succeed for an `addr-spec` only. -/
structure HoldsToSMTP (c : Client) : Prop where
  mail : ∀ s, c.mail s = true → IsAddrSpec s.toList
  rcpt : ∀ s, c.rcpt s = true → IsAddrSpec s.toList

variable {c : Client} {fromAddr recipient msg s : String}

/-- The calls are those of `writeMessage`: it succeeds if all of them do. -/
theorem writeMessage_eq_ok_iff :
    (MailMessage.writeMessage c fromAddr recipient msg).1 = .ok () ↔
      ∀ call ∈ script fromAddr recipient msg, call.succeeds c = true := by
  unfold MailMessage.writeMessage
  simp only [script, List.forall_mem_cons, Call.succeeds]
  cases c.mail fromAddr <;> cases c.rcpt recipient <;> cases c.data <;> cases c.write msg <;>
    cases c.close <;> simp

/-- MAIL is always called. -/
theorem mail_mem_calls : Call.mail fromAddr ∈ calls c fromAddr recipient msg :=
  List.mem_cons_self

/-- RCPT is called if MAIL succeeds. -/
theorem rcpt_mem_calls (h : c.mail fromAddr = true) :
    Call.rcpt recipient ∈ calls c fromAddr recipient msg := by
  unfold calls script made
  rw [Call.succeeds, h]
  exact List.mem_cons_of_mem _ List.mem_cons_self

theorem mem_script_of_mem_made {call : Call} {l : List Call} (h : call ∈ made c l) : call ∈ l := by
  induction l with
  | nil => exact h
  | cons first rest ih =>
      rw [made] at h
      rcases List.mem_cons.mp h with h | h
      · rw [h]
        exact List.mem_cons_self
      · split at h
        · exact List.mem_cons_of_mem first (ih h)
        · cases h

/-- Only the recipient is passed to RCPT. -/
theorem eq_of_rcpt_mem_calls (h : Call.rcpt s ∈ calls c fromAddr recipient msg) :
    s = recipient := by
  have hmem := mem_script_of_mem_made h
  simpa [script] using hmem

/-- Only the sender and the recipient are in the envelope. -/
theorem eq_of_mem_addresses (h : s ∈ addresses c fromAddr recipient msg) :
    s = fromAddr ∨ s = recipient := by
  obtain ⟨call, hcall, haddr⟩ := List.mem_filterMap.mp h
  have hmem := mem_script_of_mem_made hcall
  simp only [script, List.mem_cons, List.not_mem_nil, or_false] at hmem
  rcases hmem with rfl | rfl | rfl | rfl | rfl
  · exact Or.inl (Option.some.inj haddr).symm
  · exact Or.inr (Option.some.inj haddr).symm
  · cases haddr
  · cases haddr
  · cases haddr

/-! ## §2. Clients that take addresses. -/

/-- A client at whose server nothing fails, and which takes the addresses that `p` holds of. -/
def taking (p : String → Bool) (h : ∀ s, p s = true → containsLineBreak s = false) : Client where
  dial := fun _ => true
  tlsDial := fun _ => true
  newClient := fun _ => true
  startTLS := fun _ => true
  auth := true
  mail := p
  rcpt := p
  data := true
  write := fun _ => true
  close := true
  mail_refuses := fun s hbreak => Bool.eq_false_iff.mpr fun hp => by
    rw [h s hp] at hbreak
    cases hbreak
  rcpt_refuses := fun s hbreak => Bool.eq_false_iff.mpr fun hp => by
    rw [h s hp] at hbreak
    cases hbreak

/-- The client of net/smtp at such a server: it refuses line breaks only. -/
def willing : Client := taking (fun s => !containsLineBreak s) fun _ h => Bool.not_eq_true' _ ▸ h

theorem containsLineBreak_of_isAddrSpec (h : IsAddrSpec s.toList) :
    containsLineBreak s = false := by
  unfold containsLineBreak
  rw [List.any_eq_false]
  intro ch hmem hbreak
  have hch := h.isVchar_or_isWSP ch hmem
  simp only [Bool.or_eq_true, decide_eq_true_eq] at hbreak
  rcases hbreak with rfl | rfl
  · rcases hch with hch | hch
    · exact absurd hch (by decide)
    · exact absurd hch (by decide)
  · rcases hch with hch | hch
    · exact absurd hch (by decide)
    · exact absurd hch (by decide)

open Classical in
/-- The client at a server that takes every `addr-spec` and nothing else. -/
noncomputable def strict : Client :=
  taking (fun s => decide (IsAddrSpec s.toList)) fun _ h =>
    containsLineBreak_of_isAddrSpec (of_decide_eq_true h)

open Classical in
theorem strict_takes : strict.mail s = true ∧ strict.rcpt s = true ↔ IsAddrSpec s.toList := by
  change decide (IsAddrSpec s.toList) = true ∧ decide (IsAddrSpec s.toList) = true ↔ _
  rw [and_self, decide_eq_true_iff]

theorem holdsToSMTP_strict : HoldsToSMTP strict :=
  ⟨fun _ h => strict_takes.mp ⟨h, h⟩, fun _ h => strict_takes.mp ⟨h, h⟩⟩

/-! ## §3. Addresses that are alone. -/

/-- RCPT is given an `addr-spec` alone, whatever the client, the sender and the message. -/
theorem rcpt_isAddrSpec_iff :
    (∀ c fromAddr msg s, Call.rcpt s ∈ calls c fromAddr recipient msg → IsAddrSpec s.toList) ↔
      IsAddrSpec recipient.toList := by
  constructor
  · intro h
    exact h willing "" "" recipient (rcpt_mem_calls rfl)
  · intro h c fromAddr msg s hs
    rwa [eq_of_rcpt_mem_calls hs]

/-- So are MAIL and RCPT. -/
theorem addresses_isAddrSpec_iff :
    (∀ c msg, ∀ s ∈ addresses c fromAddr recipient msg, IsAddrSpec s.toList) ↔
      IsAddrSpec fromAddr.toList ∧ IsAddrSpec recipient.toList := by
  constructor
  · intro h
    have hfrom : IsAddrSpec fromAddr.toList :=
      h willing "" fromAddr (List.mem_filterMap.mpr ⟨_, mail_mem_calls, rfl⟩)
    -- the client has no reason of its own to refuse the sender
    have hmail : willing.mail fromAddr = true := by
      change (!containsLineBreak fromAddr) = true
      rw [containsLineBreak_of_isAddrSpec hfrom]
      rfl
    exact ⟨hfrom, h willing "" recipient (List.mem_filterMap.mpr ⟨_, rcpt_mem_calls hmail, rfl⟩)⟩
  · rintro ⟨hfrom, hto⟩ c msg s hs
    rcases eq_of_mem_addresses hs with rfl | rfl
    · exact hfrom
    · exact hto

/-- A message to such a recipient can be sent where the server holds to SMTP, and to no
other. -/
theorem exists_sent_iff :
    (∃ c, HoldsToSMTP c ∧
      ∃ fromAddr msg, (MailMessage.writeMessage c fromAddr recipient msg).1 = .ok ()) ↔
      IsAddrSpec recipient.toList := by
  constructor
  · rintro ⟨c, hc, fromAddr, msg, hsent⟩
    have hrcpt := writeMessage_eq_ok_iff.mp hsent (.rcpt recipient)
      (List.mem_cons_of_mem _ List.mem_cons_self)
    exact hc.rcpt recipient hrcpt
  · intro h
    refine ⟨strict, holdsToSMTP_strict, recipient, "", writeMessage_eq_ok_iff.mpr ?_⟩
    obtain ⟨hmail, hrcpt⟩ := strict_takes.mpr h
    simp only [script, List.forall_mem_cons]
    exact ⟨hmail, hrcpt, rfl, rfl, rfl, fun _ hmem => absurd hmem List.not_mem_nil⟩

/-- **When the text that is passed is an `addr-spec`.**  For an accepted email address
exactly if nothing stands around it: it does not begin with a blank, no blank follows its
last at sign, and it does not end with a blank or with `)`, `>` or `;`.  Every message to
any other is refused where the server holds to SMTP.  The same holds of both addresses that
the sender accepts. -/
theorem envelope_isAddrSpec_iff {decodes : List Char → Bool} {X : Users.Externals}
    (hparse : X.parseAddress = accepts decodes) :
    (∀ email, email ≠ "" → Users.validateEmailPtr X (some email) = true →
      ((∀ c fromAddr msg s, Call.rcpt s ∈ calls c fromAddr email msg → IsAddrSpec s.toList) ↔
        IsTrimmed email.toList) ∧
      ((∃ c, HoldsToSMTP c ∧
        ∃ fromAddr msg, (MailMessage.writeMessage c fromAddr email msg).1 = .ok ()) ↔
          IsTrimmed email.toList)) ∧
    ∀ recipient subject fromAddr fromName,
      validateHeaders X.parseAddress recipient subject fromAddr fromName = .ok () →
        ((∀ c msg, ∀ s ∈ addresses c fromAddr recipient msg, IsAddrSpec s.toList) ↔
          IsTrimmed fromAddr.toList ∧ IsTrimmed recipient.toList) := by
  rw [hparse]
  constructor
  · intro email hne hvalid
    have haccepts : accepts decodes email = true := by
      rw [← hparse]
      exact (Bool.or_eq_true_iff.mp hvalid).resolve_left fun hempty =>
        hne (of_decide_eq_true hempty)
    have hiff := accepts_isAddrSpec_iff haccepts
    exact ⟨rcpt_isAddrSpec_iff.trans hiff, exists_sent_iff.trans hiff⟩
  · intro recipient subject fromAddr fromName hvalid
    obtain ⟨hto, hfrom, -⟩ := validateHeaders_eq_ok_iff.mp hvalid
    rw [← accepts_isAddrSpec_iff hto, ← accepts_isAddrSpec_iff hfrom]
    exact addresses_isAddrSpec_iff

/-- The users of a system whose parser is that of net/mail. -/
def netMail : Users.Externals :=
  { Users.plainExternals with parseAddress := accepts fun _ => true }

theorem isTrimmed_bob : IsTrimmed "bob@example.com".toList where
  head := by
    rintro c ⟨⟩
    decide
  domain := by
    rintro c ⟨⟩
    decide
  last := by
    rintro c ⟨⟩
    decide

/-- An address with nothing around it, as RCPT is given it. -/
theorem envelope_bob : IsAddrSpec "bob@example.com".toList :=
  have hparse : netMail.parseAddress = accepts fun _ => true := rfl
  have hiff := (envelope_isAddrSpec_iff hparse).1 "bob@example.com" (by decide) (by decide +kernel)
  hiff.1.mpr isTrimmed_bob willing "" "" "bob@example.com" (rcpt_mem_calls rfl)

/-- **An address with a name** is accepted, and passed to RCPT with the name. -/
theorem envelope_displayName :
    ¬∀ (X : Users.Externals) (decodes : List Char → Bool), X.parseAddress = accepts decodes →
      ∀ email, email ≠ "" → Users.validateEmailPtr X (some email) = true →
        ∀ c fromAddr msg s, Call.rcpt s ∈ calls c fromAddr email msg → IsAddrSpec s.toList := by
  intro h
  have hbob := rcpt_isAddrSpec_iff.mp (h netMail (fun _ => true) rfl "Bob <bob@example.com>"
    (by decide) (by decide +kernel))
  exact absurd (hbob.isTrimmed.last '>' rfl) (by decide)

end TLSentinel.Notifications.Envelope

