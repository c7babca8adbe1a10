/-
  TLSentinel.Notifications.MailMessage
  ────────────────────────────────────
  **THE MESSAGE THAT IS WRITTEN TO THE SERVER, AND ITS HEADER.**

  `send` of `internal/mail/sender.go` pastes the sender, the recipient and the subject
  into the header of the message.  `validateHeaders` refuses a subject and a name with CR
  or LF.  Of the addresses it only asks that they parse; it is the client that refuses
  them with CR or LF, and before any data is written MAIL and RCPT have been given both.

  `TLSentinel.Notifications.Sender` has the answers of `Send` without the message;
  `send_refines` says that they are these.

  Main result: `send_header` — what is written has the five lines of the header, with
  the values given, before its first empty line.
-/
import TLSentinel.Foundation.HeaderLines
import TLSentinel.Foundation.Hex
import TLSentinel.Notifications.Sender

namespace TLSentinel.Notifications.MailMessage

open Foundation

/-! ## §1. The message. -/

/-- What `htmlToText` uses from outside the repository: the compiled regexps, each with the
replacement of its `ReplaceAllString`, and `html.UnescapeString`. -/
structure TextFunctions where
  reStyle : String → String
  reScript : String → String
  reBlock : String → String
  reTags : String → String
  unescapeString : String → String
  reSpaces : String → String
  reLines : String → String

/-- `strings.ReplaceAll(s, " \n", "\n")`. -/
def dropBlankBefore : List Char → List Char
  | ' ' :: '\n' :: chars => '\n' :: dropBlankBefore chars
  | c :: chars => c :: dropBlankBefore chars
  | [] => []

/-- `strings.ReplaceAll(s, "\n ", "\n")`. -/
def dropBlankAfter : List Char → List Char
  | '\n' :: ' ' :: chars => '\n' :: dropBlankAfter chars
  | c :: chars => c :: dropBlankAfter chars
  | [] => []

/-- `htmlToText`. -/
def htmlToText (F : TextFunctions) (htmlBody : String) : String :=
  let s := F.reTags (F.reBlock (F.reScript (F.reStyle htmlBody)))
  let s := F.reSpaces (F.unescapeString s)
  let s := String.ofList (dropBlankAfter (dropBlankBefore s.toList))
  trimSpace (F.reLines s)

/-- `randomBoundary`; `none` is an error of the random source. -/
def randomBoundary (random : Option (Vector UInt8 16)) : Option String :=
  random.map fun b =>
    "===============" ++ String.ofList (Hex.encode Nat.digitChar b.toList) ++ "=="

/-- The value of From. -/
def fromHeader (fromAddr fromName : String) : String :=
  if fromName ≠ "" then fromName ++ " <" ++ fromAddr ++ ">" else fromAddr

/-- The two parts of the message: plain text, and HTML. -/
def messageParts (F : TextFunctions) (boundary htmlBody : String) : String :=
  "--" ++ boundary ++ "\r\n"
    ++ "Content-Type: text/plain; charset=utf-8\r\n"
    ++ "\r\n"
    ++ htmlToText F htmlBody ++ "\r\n"
    ++ "--" ++ boundary ++ "\r\n"
    ++ "Content-Type: text/html; charset=utf-8\r\n"
    ++ "\r\n"
    ++ htmlBody ++ "\r\n"
    ++ "--" ++ boundary ++ "--\r\n"

/-- `buildMessage`. -/
def buildMessage (F : TextFunctions) (fromAddr fromName recipient subject htmlBody : String)
    (random : Option (Vector UInt8 16)) : Option String :=
  (randomBoundary random).map fun boundary =>
    "From: " ++ fromHeader fromAddr fromName ++ "\r\n"
      ++ "To: " ++ recipient ++ "\r\n"
      ++ "Subject: " ++ subject ++ "\r\n"
      ++ "MIME-Version: 1.0\r\n"
      ++ "Content-Type: multipart/alternative; boundary=\"" ++ boundary ++ "\"\r\n"
      ++ "\r\n" ++ messageParts F boundary htmlBody

/-! ## §2. The conversation. -/

/-- The clients of net/smtp and crypto/tls: which of their calls succeed.  `Mail` and
`Rcpt` return an error when the address contains CR or LF. -/
structure Client where
  dial : String → Bool
  tlsDial : String → Bool
  newClient : String → Bool
  startTLS : String → Bool
  auth : Bool
  mail : String → Bool
  rcpt : String → Bool
  data : Bool
  write : String → Bool
  close : Bool
  mail_refuses : ∀ s, containsLineBreak s = true → mail s = false
  rcpt_refuses : ∀ s, containsLineBreak s = true → rcpt s = false

/-- What a call returns, and the message it has begun to write to the server. -/
abbrev Outcome := Except SendError Unit × Option String

/-- `writeMessage`. -/
def writeMessage (c : Client) (fromAddr recipient msg : String) : Outcome :=
  if c.mail fromAddr = false then (.error (.smtp .mailFrom), none)
  else if c.rcpt recipient = false then (.error (.smtp .rcptTo), none)
  else if c.data = false then (.error (.smtp .data), none)
  else if c.write msg = false then (.error (.smtp .write), some msg)
  else (if c.close then .ok () else .error (.smtp .close), some msg)

/-- `sendWithSTARTTLS`. -/
def sendWithSTARTTLS (c : Client) (addr host : String) (auth : Bool)
    (fromAddr recipient msg : String) (requireTLS : Bool) : Outcome :=
  if c.dial addr = false then (.error (.smtp .dial), none)
  else if requireTLS = true ∧ c.startTLS host = false then (.error (.smtp .startTLS), none)
  else if auth = true ∧ c.auth = false then (.error (.smtp .auth), none)
  else writeMessage c fromAddr recipient msg

/-- `sendExplicitTLS`. -/
def sendExplicitTLS (c : Client) (addr host : String) (auth : Bool)
    (fromAddr recipient msg : String) : Outcome :=
  if c.tlsDial addr = false then (.error (.smtp .dial), none)
  else if c.newClient host = false then (.error (.smtp .client), none)
  else if auth = true ∧ c.auth = false then (.error (.smtp .auth), none)
  else writeMessage c fromAddr recipient msg

/-- The address of the server. -/
def serverAddr (cfg : Config) : String := cfg.smtpHost ++ ":" ++ toString cfg.smtpPort

/-- The path that the TLS mode asks for. -/
def dispatch (c : Client) (cfg : Config) (auth : Bool) (recipient msg : String) : Outcome :=
  if cfg.tlsMode = "tls" then
    sendExplicitTLS c (serverAddr cfg) cfg.smtpHost auth cfg.fromAddress recipient msg
  else if cfg.tlsMode = "starttls" then
    sendWithSTARTTLS c (serverAddr cfg) cfg.smtpHost auth cfg.fromAddress recipient msg true
  else if cfg.tlsMode = "none" ∨ cfg.tlsMode = "" then
    sendWithSTARTTLS c (serverAddr cfg) cfg.smtpHost auth cfg.fromAddress recipient msg false
  else (.error (.tlsMode cfg.tlsMode), none)

/-- `send`. -/
def send (parseAddress : String → Bool) (F : TextFunctions) (c : Client) (cfg : Config)
    (recipient subject htmlBody : String) (random : Option (Vector UInt8 16)) : Outcome :=
  match validateHeaders parseAddress recipient subject cfg.fromAddress cfg.fromName with
  | .error e => (.error e, none)
  | .ok _ =>
      match buildAuth cfg with
      | .error e => (.error e, none)
      | .ok auth =>
          match buildMessage F cfg.fromAddress cfg.fromName recipient subject htmlBody random with
          | none => (.error .boundary, none)
          | some msg => dispatch c cfg auth recipient msg

/-! ## §3. What has been written. -/

variable {parseAddress : String → Bool} {F : TextFunctions} {c : Client} {cfg : Config}
  {recipient subject htmlBody fromAddr fromName msg written boundary : String}
  {random : Option (Vector UInt8 16)}

theorem containsLineBreak_eq_false_iff {s : String} :
    containsLineBreak s = false ↔ NoBreak s.toList := by
  unfold containsLineBreak NoBreak
  rw [List.any_eq_false]
  constructor
  · intro h
    exact ⟨fun hmem => h _ hmem rfl, fun hmem => h _ hmem rfl⟩
  · rintro ⟨hcr, hlf⟩ ch hmem hbreak
    simp only [Bool.or_eq_true, decide_eq_true_eq] at hbreak
    obtain rfl | rfl := hbreak
    · exact hcr hmem
    · exact hlf hmem

/-- **Before data is written** the client has taken both addresses. -/
theorem written_of_writeMessage (h : (writeMessage c fromAddr recipient msg).2 = some written) :
    written = msg ∧ NoBreak fromAddr.toList ∧ NoBreak recipient.toList := by
  unfold writeMessage at h
  split at h
  · cases h
  · next hmail =>
      split at h
      · cases h
      · next hrcpt =>
          have hfrom : containsLineBreak fromAddr = false :=
            Bool.eq_false_iff.mpr fun hbreak => hmail (c.mail_refuses _ hbreak)
          have hto : containsLineBreak recipient = false :=
            Bool.eq_false_iff.mpr fun hbreak => hrcpt (c.rcpt_refuses _ hbreak)
          refine ⟨?_, containsLineBreak_eq_false_iff.mp hfrom,
            containsLineBreak_eq_false_iff.mp hto⟩
          split at h
          · cases h
          · split at h
            · exact (Option.some.inj h).symm
            · exact (Option.some.inj h).symm

theorem written_of_sendWithSTARTTLS {addr host : String} {auth requireTLS : Bool}
    (h : (sendWithSTARTTLS c addr host auth fromAddr recipient msg requireTLS).2 =
      some written) : (writeMessage c fromAddr recipient msg).2 = some written := by
  unfold sendWithSTARTTLS at h
  split at h
  · cases h
  · split at h
    · cases h
    · split at h
      · cases h
      · exact h

theorem written_of_sendExplicitTLS {addr host : String} {auth : Bool}
    (h : (sendExplicitTLS c addr host auth fromAddr recipient msg).2 = some written) :
    (writeMessage c fromAddr recipient msg).2 = some written := by
  unfold sendExplicitTLS at h
  split at h
  · cases h
  · split at h
    · cases h
    · split at h
      · cases h
      · exact h

theorem written_of_dispatch {auth : Bool}
    (h : (dispatch c cfg auth recipient msg).2 = some written) :
    (writeMessage c cfg.fromAddress recipient msg).2 = some written := by
  unfold dispatch at h
  split at h
  · exact written_of_sendExplicitTLS h
  · split at h
    · exact written_of_sendWithSTARTTLS h
    · split at h
      · exact written_of_sendWithSTARTTLS h
      · cases h

/-- **What is written is the message built**, and neither subject nor name nor address has CR
or LF. -/
theorem written_of_send
    (h : (send parseAddress F c cfg recipient subject htmlBody random).2 = some written) :
    buildMessage F cfg.fromAddress cfg.fromName recipient subject htmlBody random =
        some written ∧
      NoBreak cfg.fromAddress.toList ∧ NoBreak cfg.fromName.toList ∧
        NoBreak recipient.toList ∧ NoBreak subject.toList := by
  unfold send at h
  split at h
  · cases h
  · next hheaders =>
      obtain ⟨-, -, hsubject, hname⟩ := validateHeaders_eq_ok_iff.mp hheaders
      split at h
      · cases h
      · split at h
        · cases h
        · next msg hmsg =>
            obtain ⟨rfl, hfrom, hto⟩ := written_of_writeMessage (written_of_dispatch h)
            exact ⟨hmsg, hfrom, containsLineBreak_eq_false_iff.mp hname, hto,
              containsLineBreak_eq_false_iff.mp hsubject⟩

/-! ## §4. The header of a message. -/

/-- Constant text, checked. -/
theorem noBreak_of_all {chars : List Char}
    (h : chars.all (fun c => decide (c ≠ '\r') && decide (c ≠ '\n')) = true) : NoBreak chars := by
  constructor
  · intro hmem
    exact absurd (List.all_eq_true.mp h _ hmem) (by decide)
  · intro hmem
    exact absurd (List.all_eq_true.mp h _ hmem) (by decide)

theorem noBreak_text {s t : String}
    (h : s.toList.all (fun c => decide (c ≠ '\r') && decide (c ≠ '\n')) = true)
    (ht : NoBreak t.toList) : NoBreak (s ++ t).toList := by
  rw [String.toList_append]
  exact noBreak_append.mpr ⟨noBreak_of_all h, ht⟩

/-- The lines that a header is to have, in their order: the sender, with a name where there is
one, the recipient, the subject, and that the message has two parts. -/
def headerLines (fromAddr fromName recipient subject : String) (bytes : List UInt8) :
    List String :=
  [if fromName = "" then "From: " ++ fromAddr else "From: " ++ fromName ++ " <" ++ fromAddr ++ ">",
    "To: " ++ recipient,
    "Subject: " ++ subject,
    "MIME-Version: 1.0",
    "Content-Type: multipart/alternative; boundary=\"===============" ++
      String.ofList (Hex.encode Nat.digitChar bytes) ++ "==\""]

/-- Hexadecimal digits are no line breaks. -/
theorem noBreak_encode (bytes : List UInt8) :
    NoBreak (String.ofList (Hex.encode Nat.digitChar bytes)).toList := by
  have hdigits : ∀ c ∈ Hex.encode Nat.digitChar bytes, Hex.isHex c = true :=
    Hex.isHex_of_mem_encode Hex.digits_lower
  rw [String.toList_ofList]
  exact ⟨fun hmem => absurd (hdigits _ hmem) (by decide),
    fun hmem => absurd (hdigits _ hmem) (by decide)⟩

/-- **A message begins with its header**, written in lines, and an empty line. -/
theorem buildMessage_toList
    (h : buildMessage F fromAddr fromName recipient subject htmlBody random = some msg) :
    ∃ bytes body, random = some bytes ∧ msg.toList =
      ((headerLines fromAddr fromName recipient subject bytes.toList).map String.toList).flatMap
        LineReader.written ++ (LineReader.written [] ++ body) := by
  unfold buildMessage randomBoundary at h
  obtain ⟨boundary, hboundary, rfl⟩ := Option.map_eq_some_iff.mp h
  obtain ⟨bytes, rfl, rfl⟩ := Option.map_eq_some_iff.mp hboundary
  refine ⟨bytes, (messageParts F ("===============" ++
    String.ofList (Hex.encode Nat.digitChar bytes.toList) ++ "==") htmlBody).toList, rfl, ?_⟩
  by_cases hname : fromName = ""
  · simp [headerLines, LineReader.written, fromHeader, hname]
  · simp [headerLines, LineReader.written, fromHeader, hname]

/-- Its lines are not empty and have neither CR nor LF, if the values have none. -/
theorem headerLines_noBreak (haddr : NoBreak fromAddr.toList) (hname : NoBreak fromName.toList)
    (hto : NoBreak recipient.toList) (hsubject : NoBreak subject.toList) (bytes : List UInt8) :
    ∀ l ∈ (headerLines fromAddr fromName recipient subject bytes).map String.toList,
      l ≠ [] ∧ NoBreak l := by
  have hne : ∀ s t : String, s.toList ≠ [] → (s ++ t).toList ≠ [] := by
    intro s t hs happ
    rw [String.toList_append] at happ
    exact hs (List.append_eq_nil_iff.mp happ).1
  intro l hl
  obtain ⟨s, hs, rfl⟩ := List.mem_map.mp hl
  simp only [headerLines, List.mem_cons, List.not_mem_nil, or_false] at hs
  obtain rfl | rfl | rfl | rfl | rfl := hs
  · split
    · exact ⟨hne _ _ (by decide), noBreak_text (by decide) haddr⟩
    · simp only [String.append_assoc]
      refine ⟨hne _ _ (by decide), noBreak_text (by decide) ?_⟩
      rw [String.toList_append]
      refine noBreak_append.mpr ⟨hname, noBreak_text (by decide) ?_⟩
      rw [String.toList_append]
      exact noBreak_append.mpr ⟨haddr, noBreak_of_all (by decide)⟩
  · exact ⟨hne _ _ (by decide), noBreak_text (by decide) hto⟩
  · exact ⟨hne _ _ (by decide), noBreak_text (by decide) hsubject⟩
  · exact ⟨by decide, noBreak_of_all (by decide)⟩
  · rw [String.append_assoc]
    refine ⟨hne _ _ (by decide), noBreak_text (by decide) ?_⟩
    rw [String.toList_append]
    exact noBreak_append.mpr ⟨noBreak_encode bytes, noBreak_of_all (by decide)⟩

/-- **No header is injected**: whoever reads what has been written finds the five lines of the
header, with the values given, before its first empty line. -/
theorem send_header
    (h : (send parseAddress F c cfg recipient subject htmlBody random).2 = some written)
    (reader : LineReader) :
    ∃ bytes, random = some bytes ∧ reader.headers written.toList =
      (headerLines cfg.fromAddress cfg.fromName recipient subject bytes.toList).map
        String.toList := by
  obtain ⟨hmsg, haddr, hname, hto, hsubject⟩ := written_of_send h
  obtain ⟨bytes, body, hbytes, htext⟩ := buildMessage_toList hmsg
  refine ⟨bytes, hbytes, ?_⟩
  rw [htext]
  exact reader.headers_of_block (headerLines_noBreak haddr hname hto hsubject bytes.toList) body

/-- A client whose server takes every address that it may be given. -/
def plainClient : Client where
  dial := fun _ => true
  tlsDial := fun _ => true
  newClient := fun _ => true
  startTLS := fun _ => true
  auth := true
  mail := fun s => !containsLineBreak s
  rcpt := fun s => !containsLineBreak s
  data := true
  write := fun _ => true
  close := true
  mail_refuses := fun _ h => by rw [h]; rfl
  rcpt_refuses := fun _ h => by rw [h]; rfl

/-- Text without markup stays as it is. -/
def plainText : TextFunctions := ⟨id, id, id, id, id, id, id⟩

/-- A relay without authentication. -/
def relay : Config := ⟨"mail", 25, "none", "", "", "tls@example.com", "TLSentinel", "none"⟩

/-- The mail about a certificate, whose boundary is that of sixteen zeros. -/
def relayed : Outcome :=
  send (fun s => decide ('@' ∈ s.toList)) plainText plainClient relay "ann@example.com" "Expiry"
    "Soon."
    (some (Vector.replicate 16 0))

theorem send_header_relayed : ∃ written, relayed.2 = some written ∧
    (LineReader.ofBare true true).headers written.toList =
      ["From: TLSentinel <tls@example.com>", "To: ann@example.com", "Subject: Expiry",
        "MIME-Version: 1.0", "Content-Type: multipart/alternative; " ++
          "boundary=\"===============00000000000000000000000000000000==\""].map
        String.toList := by
  have hwritten : relayed.2.isSome = true := by decide
  obtain ⟨written, h⟩ := Option.isSome_iff_exists.mp hwritten
  obtain ⟨bytes, hbytes, hheader⟩ := send_header h (LineReader.ofBare true true)
  injection hbytes with hbytes
  subst hbytes
  exact ⟨written, h, hheader.trans (by decide)⟩

/-! ## §5. The answers of Send. -/

/-- The command of the conversation fails. -/
def fails (c : Client) (cfg : Config) (recipient msg : String) : SMTPCommand → Bool
  | .dial => !(if cfg.tlsMode = "tls" then c.tlsDial (serverAddr cfg) else c.dial (serverAddr cfg))
  | .client => !c.newClient cfg.smtpHost
  | .startTLS => !c.startTLS cfg.smtpHost
  | .auth => !c.auth
  | .mailFrom => !c.mail cfg.fromAddress
  | .rcptTo => !c.rcpt recipient
  | .data => !c.data
  | .write => !c.write msg
  | .close => !c.close

/-- The answer of commands that are given until one fails. -/
def answer (failing : SMTPCommand → Bool) (commands : List SMTPCommand) : Except SendError Unit :=
  (commands.find? failing).elim (.ok ()) fun command => .error (.smtp command)

theorem answer_cons (failing : SMTPCommand → Bool) (command : SMTPCommand)
    (commands : List SMTPCommand) : answer failing (command :: commands) =
      if failing command = true then .error (.smtp command) else answer failing commands := by
  unfold answer
  rw [List.find?_cons]
  cases failing command <;> rfl

theorem writeMessage_answer :
    (writeMessage c cfg.fromAddress recipient msg).1 =
      answer (fails c cfg recipient msg) Notifications.writeMessage := by
  unfold writeMessage Notifications.writeMessage
  simp only [answer_cons, fails, Bool.not_eq_true']
  split
  · rfl
  · split
    · rfl
    · split
      · rfl
      · split
        · rfl
        · cases c.close <;> rfl

theorem sendWithSTARTTLS_answer {auth requireTLS : Bool} (h : cfg.tlsMode ≠ "tls") :
    (sendWithSTARTTLS c (serverAddr cfg) cfg.smtpHost auth cfg.fromAddress recipient msg
        requireTLS).1 =
      answer (fails c cfg recipient msg) (Notifications.sendWithSTARTTLS auth requireTLS) := by
  unfold sendWithSTARTTLS Notifications.sendWithSTARTTLS
  cases hdial : c.dial (serverAddr cfg) <;> cases requireTLS <;> cases auth <;>
    cases hstart : c.startTLS cfg.smtpHost <;> cases hauth : c.auth <;>
    simp [answer_cons, fails, h, hdial, hstart, hauth, writeMessage_answer]

theorem sendExplicitTLS_answer {auth : Bool} (h : cfg.tlsMode = "tls") :
    (sendExplicitTLS c (serverAddr cfg) cfg.smtpHost auth cfg.fromAddress recipient msg).1 =
      answer (fails c cfg recipient msg) (Notifications.sendExplicitTLS auth) := by
  unfold sendExplicitTLS Notifications.sendExplicitTLS
  cases hdial : c.tlsDial (serverAddr cfg) <;> cases auth <;>
    cases hclient : c.newClient cfg.smtpHost <;> cases hauth : c.auth <;>
    simp [answer_cons, fails, h, hdial, hclient, hauth, writeMessage_answer]

/-- Each path answers as its conversation does. -/
theorem dispatch_answer {auth : Bool} : (dispatch c cfg auth recipient msg).1 =
    match conversation cfg auth with
    | .error e => .error e
    | .ok commands => answer (fails c cfg recipient msg) commands := by
  unfold dispatch conversation
  split
  · next h => exact sendExplicitTLS_answer h
  · next h =>
      split
      · exact sendWithSTARTTLS_answer h
      · split
        · exact sendWithSTARTTLS_answer h
        · rfl

/-- **The answers of Send** are those of `TLSentinel.Notifications.Sender`, for a network that
fails at the first command that does. -/
theorem send_refines (parseAddress : String → Bool) (F : TextFunctions) (c : Client)
    (cfg : Config) (recipient subject htmlBody : String)
    (random : Option (Vector UInt8 16)) : ∃ net,
      (send parseAddress F c cfg recipient subject htmlBody random).1 =
        Notifications.send parseAddress cfg recipient subject net := by
  unfold send Notifications.send
  cases hheaders : validateHeaders parseAddress recipient subject cfg.fromAddress cfg.fromName with
  | error e => exact ⟨⟨true, none⟩, rfl⟩
  | ok u =>
      cases hauth : buildAuth cfg with
      | error e => exact ⟨⟨true, none⟩, rfl⟩
      | ok auth =>
          cases hmsg : buildMessage F cfg.fromAddress cfg.fromName recipient subject htmlBody
              random with
          | none => exact ⟨⟨false, none⟩, rfl⟩
          | some msg =>
              simp only [dispatch_answer]
              cases htls : conversation cfg auth with
              | error e => exact ⟨⟨true, none⟩, rfl⟩
              | ok commands =>
                  refine ⟨⟨true, commands.find? (fails c cfg recipient msg)⟩, ?_⟩
                  simp only [answer, Bool.true_eq_false, if_false]
                  cases hfind : commands.find? (fails c cfg recipient msg) with
                  | none => rfl
                  | some command =>
                      have hmem : command ∈ commands := List.mem_of_find?_eq_some hfind
                      simp [hmem]

end TLSentinel.Notifications.MailMessage
