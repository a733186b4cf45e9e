import TelcoVecchio.DeliverFields
import TelcoVecchio.MessageRoundTrip
import TelcoVecchio.ReplyAddress
import TelcoVecchio.Replies
import TelcoVecchio.RequestLanguage

/-!
One exchange between a phone and the daemon, from PDU to PDU. The text that a
phone packs into its SMS-DELIVER is what `handle_request` gets, and the reply of
`handle_request` is what the SMS-SUBMIT of `send_sms` carries back to the number
that the text came from. The lengths in bytes and in septets have to agree on
both ways; they do for every command that can be carried out, and for the
replies that report it.
-/

namespace TelcoVecchio.WireExchange

open Common SmsUtils SmsDeliver Request Service MainLoop DeliverFields MessageRoundTrip SentPdu
  PhoneNumbers Replies RequestLanguage

structure Says (deliver : Deliver) (text : String) : Prop where
  packed : ∃ units, Gsm0338.encodeText text.toList = some units ∧
    SeptetPacking.Packs units deliver.userData ∧ deliver.count.toNat = units.length

def Delivers (pdu : String) (digits : List Char) (text : String) : Prop :=
  ∃ submit, SmsSubmit.readSubmit pdu.toList = some submit ∧
    SmsSubmit.Spells submit.destination digits ∧ SmsSubmit.Carries submit.userData text.toList

def Alphabetic (text : String) : Prop :=
  ∀ char ∈ text.toList, Gsm0338.inAlphabet char = true

def Level (text : String) : Prop := text.utf8ByteSize = Gsm0338.septetCount text.toList

section Incoming
variable {gsm7 : Gsm7} (documented : gsm7.Documented) (deliver : Deliver)

theorem said_sender (centre : deliver.centre.length = 7)
    (digits : deliver.digits.length = 11 ∨ deliver.digits.length = 12) {sms : IncomingSms}
    (read : readPdu gsm7 (String.ofList deliver.text) = .ok sms) :
    sms.sender = internationalNumber deliver.digits := by
  have found : passedFields (String.ofList deliver.text) =
      some (internationalNumber deliver.digits, deliver.count.toNat, deliver.data) :=
    finds_fields_of_expected deliver centre digits
  simp only [read_pdu_passes, found] at read
  split at read
  · cases read
    rfl
  · cases read
  · cases read
  · cases read

include documented

theorem said_read_iff (centre : deliver.centre.length = 7)
    (digits : deliver.digits.length = 11 ∨ deliver.digits.length = 12) (text : String)
    (said : Says deliver text) :
    readPdu gsm7 (String.ofList deliver.text) =
        .ok ⟨internationalNumber deliver.digits, text⟩ ↔ CountsAgree text := by
  rcases said.packed with ⟨units, spelled, packed, counted⟩
  have septets := (Gsm0338.encode_text_septets text.toList units spelled).1
  have decoded := decode_packed_octets gsm7 documented text.toList units spelled
    deliver.userData packed deliver.count.toNat
  have found : passedFields (String.ofList deliver.text) =
      some (internationalNumber deliver.digits, deliver.count.toNat, deliver.data) :=
    finds_fields_of_expected deliver centre digits
  have cut := truncate_read_back_iff text.toList deliver.count.toNat (by rw [counted, septets])
  rw [CountsAgree, RustText.utf8_byte_size_eq, ← septets, ← counted, ← cut]
  simp only [read_pdu_passes, found, Deliver.data, decoded]
  cases kept : RustText.truncateBytes (readBack text.toList) deliver.count.toNat with
  | none => simp
  | some front =>
      simp only [Outcome.ok.injEq, IncomingSms.mk.injEq, true_and, Option.some.injEq]
      constructor
      · intro same
        rw [← same, String.toList_ofList]
      · intro same
        rw [same, String.ofList_toList]

end Incoming

section Outgoing
variable {gsm7 : Gsm7} (documented : gsm7.Documented) {digits : List Char}
  (decimal : ∀ digit ∈ digits, digit.isDigit = true) (eleven : digits.length = 11)
include decimal eleven

theorem encode_eleven : encodePhoneNumber (internationalNumber digits) =
    some (swapped (digits ++ ['F'])) := by
  have whole : padded digits = digits ++ ['F'] := by
    rw [padded, eleven]
    rfl
  have even : (padded digits).length % 2 = 0 := by
    rw [whole, List.length_append, eleven]
    rfl
  rw [encode_digits decimal, swap_pairs_even _ even, whole]

theorem eleven_spelled :
    SmsSubmit.Spells ⟨11, international, swapped (digits ++ ['F'])⟩ digits := by
  constructor
  case count => exact eleven.symm
  case kind => rfl
  case semiOctets => simp [eleven]
  case read =>
    have read := digits_of_swapped digits ['F'] international decimal
    rwa [eleven] at read

include documented

/-- A message gets to a number of eleven digits if and only if it is short
enough, in the alphabet, and as long in septets as in bytes. -/
theorem message_delivered_iff (message : String) :
    (∃ command pdu, submitCommands gsm7 ⟨internationalNumber digits, message⟩ =
        .ok (command, pdu) ∧ Delivers pdu digits message) ↔
      message.utf8ByteSize ≤ 140 ∧ Alphabetic message ∧ Level message := by
  have encoded := encode_eleven decimal eleven
  have width : (swapped (digits ++ ['F'])).length = 12 := by
    rw [swapped_length, List.length_append, eleven]
    rfl
  have accepted := submits_iff_accepts gsm7 ⟨internationalNumber digits, message⟩ _ encoded
  constructor
  · rintro ⟨command, pdu, sent, submit, read, _, carries⟩
    rcases accepted.mp ⟨_, sent⟩ with ⟨short, _⟩
    rcases submit_commands_built sent with ⟨number, octets, built⟩
    have same : number = swapped (digits ++ ['F']) :=
      Option.some.inj (built.encodedNumber.symm.trans encoded)
    rcases built_submit built (same ▸ width) with ⟨userData, part, whole⟩
    rw [whole] at read
    cases read
    rcases built_user_data built with ⟨_, again, counted, _⟩
    rw [part] at again
    cases again
    -- the octet counts bytes, the reader takes it for septets
    rcases carries.count with ⟨units, spelled, _, count⟩
    have septets := (Gsm0338.encode_text_septets message.toList units spelled).1
    have alphabetic : Alphabetic message :=
      (Gsm0338.encode_text_isSome message.toList).mp (by rw [spelled]; rfl)
    exact ⟨short, alphabetic, by rw [Level, ← counted, count, septets]⟩
  · rintro ⟨short, alphabetic, level⟩
    have plain : Plain message := fun char member => writable_of_alphabet (alphabetic char member)
    rcases accepted.mpr ⟨short, (gsm7_write_isOk gsm7 documented message).mpr plain⟩ with
      ⟨⟨command, pdu⟩, sent⟩
    rcases submit_commands_built sent with ⟨number, octets, built⟩
    have same : number = swapped (digits ++ ['F']) :=
      Option.some.inj (built.encodedNumber.symm.trans encoded)
    rcases built_submit built (same ▸ width) with ⟨userData, part, whole⟩
    rcases built_user_data built with ⟨_, again, counted, data⟩
    rw [part] at again
    cases again
    rcases written_packed documented built.written alphabetic with ⟨units, spelled, packs⟩
    have septets := (Gsm0338.encode_text_septets message.toList units spelled).1
    refine ⟨command, pdu, sent, _, whole, same ▸ eleven_spelled decimal eleven, ?_⟩
    apply SmsSubmit.carries_of_encoded userData message.toList units spelled (by rwa [data])
    · exact counted.trans (level.trans septets.symm)
    · have bytes : message.utf8ByteSize = units.length := level.trans septets.symm
      omega

end Outgoing

/-! The replies that report a carried out command. -/

def basicMember (code : Nat) : Bool :=
  Gsm0338.asciiMember code && !(Gsm0338.extension.map fun entry => entry.2.toNat).contains code

theorem basic_level (char : Char) (low : char.toNat < 128)
    (basic : basicMember char.toNat = true) :
    char.utf8Size = 1 ∧ ((Gsm0338.encodeChar char).getD []).length = 1 := by
  have table : ∀ code < 128, basicMember code = true →
      (Char.ofNat code).utf8Size = 1 ∧
        ((Gsm0338.encodeChar (Char.ofNat code)).getD []).length = 1 := by
    decide +kernel
  have known := table char.toNat low basic
  rwa [Char.ofNat_toNat] at known

theorem chars_level (text : List Char)
    (basic : ∀ char ∈ text, char.toNat < 128 ∧ basicMember char.toNat = true) :
    RustText.byteLength text = Gsm0338.septetCount text := by
  induction text with
  | nil => rfl
  | cons head tail ih =>
      have single := basic_level head (basic head List.mem_cons_self).1
        (basic head List.mem_cons_self).2
      have rest := ih fun char member => basic char (List.mem_cons_of_mem _ member)
      rw [RustText.byte_length_cons, rest, single.1]
      simp only [Gsm0338.septetCount, List.map_cons, List.sum_cons, single.2]

theorem level_of_bytes (text : String)
    (bytes : (text.toByteArray.data.toList.all fun byte =>
      decide (byte.toNat < 128) && basicMember byte.toNat) = true) : Level text := by
  rw [Level, RustText.utf8_byte_size_eq]
  exact chars_level text.toList fun char member =>
    RustText.ascii_text text basicMember bytes char member

theorem level_append (left right : String) (level : Level left) (behind : Level right) :
    Level (left ++ right) := by
  rw [Level, RustText.utf8_byte_size_eq] at level behind ⊢
  rw [String.toList_append, RustText.byte_length_append, level, behind]
  simp only [Gsm0338.septetCount, List.map_append, List.sum_append]

theorem number_level (number : UInt32) : Level (toString number) := by
  rw [Level, RustText.utf8_byte_size_eq]
  apply chars_level
  intro char member
  rw [WordGrammar.to_string_u32] at member
  have decimal := Nat.isDigit_of_mem_toDigits (by decide) (by decide) member
  have bounds : 48 ≤ char.toNat ∧ char.toNat ≤ 57 := by
    simpa [Char.isDigit, UInt32.le_iff_toNat_le] using decimal
  have table : ∀ code < 58, 48 ≤ code → basicMember code = true := by decide
  exact ⟨by omega, table char.toNat (by omega) bounds.1⟩

/-- What `message_delivered_iff` asks of a message. -/
structure Deliverable (message : String) : Prop where
  short : message.utf8ByteSize ≤ 140
  alphabetic : Alphabetic message
  level : Level message

theorem opened_deliverable (reference : UInt32) : Deliverable (openMessage reference) := by
  have size := HexText.number_byte_size reference
  let front := "Tunnel has been setup, reference is: "
  let back := "\nAccess url has been send to you by mail"
  have frontSize : front.utf8ByteSize = 37 := rfl
  have backSize : back.utf8ByteSize = 40 := rfl
  constructor
  case short =>
    change (front ++ toString reference ++ back).utf8ByteSize ≤ 140
    rw [String.utf8ByteSize_append, String.utf8ByteSize_append]
    omega
  case alphabetic =>
    have frontKnown : Alphabetic front := Gsm0338.ascii_text_in_alphabet _ rfl
    have backKnown : Alphabetic back := Gsm0338.ascii_text_in_alphabet _ rfl
    change Alphabetic (front ++ toString reference ++ back)
    simp only [Alphabetic, String.toList_append, List.forall_mem_append]
    exact ⟨⟨frontKnown, number_in_alphabet reference⟩, backKnown⟩
  case level =>
    have levelFront : Level front := level_of_bytes _ rfl
    have levelBack : Level back := level_of_bytes _ rfl
    exact level_append _ _ (level_append _ _ levelFront (number_level reference)) levelBack

theorem fixed_deliverable (message : String) (short : message.utf8ByteSize ≤ 140)
    (bytes : (message.toByteArray.data.toList.all fun byte =>
      decide (byte.toNat < 128) && basicMember byte.toNat) = true) : Deliverable message where
  short := short
  alphabetic := fun char member =>
    have known := RustText.ascii_text message basicMember bytes char member
    Gsm0338.ascii_in_alphabet char known.1 (Bool.and_eq_true_iff.mp known.2).1
  level := level_of_bytes message bytes

theorem closed_deliverable (references : List UInt32) :
    Deliverable (closeMessage references) := by
  rw [closeMessage]
  split
  · exact fixed_deliverable _ (by decide) rfl
  · exact fixed_deliverable _ (by decide) rfl

section Commands
variable (env : Env) (user : User) (daemon : Daemon)

theorem close_listed_deliverable (references : List UInt32) (reply : String)
    (done : (closeListed env references daemon).1 = .ok reply) : Deliverable reply := by
  simp only [closeListed] at done
  cases closed : (closeTunnels env.kill references daemon).1 with
  | ok _ =>
      simp only [closed, Outcome.bind, Outcome.ok.injEq] at done
      exact done ▸ closed_deliverable references
  | err _ | panic | stuck => simp [closed, Outcome.bind] at done

theorem establish_deliverable (application : Application) (reply : String)
    (done : (establishTunnel env user application daemon).1 = .ok reply) : Deliverable reply := by
  simp only [establishTunnel] at done
  split at done
  case h_4 =>
    split at done
    · cases done
    · cases done
      exact opened_deliverable _
  all_goals cases done

theorem executed_deliverable (command : Command) (other : command ≠ .status) (reply : String)
    (done : (execute env user daemon command).1 = .ok reply) : Deliverable reply := by
  cases command with
  | openTunnel name =>
      simp only [execute] at done
      split at done
      · cases done
      · exact establish_deliverable env user daemon _ reply done
  | closeAll =>
      simp only [execute] at done
      split at done
      · cases done
      · exact close_listed_deliverable env daemon _ reply done
  | close reference => exact close_listed_deliverable env daemon [reference] reply done
  | status => exact absurd rfl other
  | reboot =>
      cases done
      exact fixed_deliverable _ (by decide) rfl
  | shutdown =>
      cases done
      exact fixed_deliverable _ (by decide) rfl

end Commands

/-! Both ways. -/

def Exchanged (gsm7 : Gsm7) (escaped : Char → Bool) (env : Env) (daemon : Daemon)
    (deliver : Deliver) (text reply : String) : Prop :=
  ∃ sms command pdu, readPdu gsm7 (String.ofList deliver.text) = .ok sms ∧ sms.msg = text ∧
    replyText escaped (handleRequest env sms.sender sms.msg daemon).1 = some reply ∧
    submitCommands gsm7 ⟨sms.sender, reply⟩ = .ok (command, pdu) ∧
    Delivers pdu deliver.digits reply

section Exchanges
variable {gsm7 : Gsm7} (documented : gsm7.Documented) (escaped : Char → Bool) (env : Env)
  (daemon : Daemon) (deliver : Deliver) (centre : deliver.centre.length = 7)
  (eleven : deliver.digits.length = 11) (text : String) (said : Says deliver text)
include documented centre eleven said

/-- A request and its reply are exchanged if and only if the counts of the
request agree and its reply is deliverable. -/
theorem exchanged_iff (reply : String)
    (replied : replyText escaped
      (handleRequest env (internationalNumber deliver.digits) text daemon).1 = some reply) :
    Exchanged gsm7 escaped env daemon deliver text reply ↔
      CountsAgree text ∧ Deliverable reply := by
  have arrives := said_read_iff documented deliver centre (Or.inl eleven) text said
  have returns := message_delivered_iff documented deliver.decimal eleven reply
  constructor
  · rintro ⟨sms, command, pdu, read, rfl, _, sent, delivers⟩
    have sender := said_sender deliver centre (Or.inl eleven) read
    have same : sms = ⟨internationalNumber deliver.digits, sms.msg⟩ := by
      rw [← sender]
    rw [sender] at sent
    rcases returns.mp ⟨command, pdu, sent, delivers⟩ with ⟨short, alphabetic, level⟩
    exact ⟨arrives.mp (same ▸ read), short, alphabetic, level⟩
  · rintro ⟨counts, short, alphabetic, level⟩
    rcases returns.mpr ⟨short, alphabetic, level⟩ with ⟨command, pdu, sent, delivers⟩
    exact ⟨_, command, pdu, arrives.mpr counts, rfl, replied, sent, delivers⟩

/-- A command that an allowed user's phone sends is carried out. When it is not
`status` and succeeds, its reply is sent and gets back to the phone. -/
theorem command_exchanged (counts : CountsAgree text) (user : User)
    (allowed : senderUser daemon.context.configuration (internationalNumber deliver.digits) =
      some user) (command : Command) (spelled : SpelledBy command text) :
    ∃ sms, readPdu gsm7 (String.ofList deliver.text) = .ok sms ∧
      handleRequest env sms.sender sms.msg daemon = execute env user daemon command ∧
      (command ≠ .status → ∀ reply, (execute env user daemon command).1 = .ok reply →
        answer escaped env sms daemon =
          (execute env user daemon command).2.record [.smsSent sms.sender reply] ∧
        ∃ atCommand pdu, submitCommands gsm7 ⟨sms.sender, reply⟩ = .ok (atCommand, pdu) ∧
          Delivers pdu deliver.digits reply) := by
  have arrives := said_read_iff documented deliver centre (Or.inl eleven) text said
  have carried := spelled_executes env (internationalNumber deliver.digits) text daemon user
    allowed command spelled
  refine ⟨_, arrives.mpr counts, carried, fun other reply done => ?_⟩
  constructor
  · simp only [answer, carried, done, replyText]
  · rcases executed_deliverable env user daemon command other reply done with
      ⟨short, alphabetic, level⟩
    exact (message_delivered_iff documented deliver.decimal eleven reply).mpr
      ⟨short, alphabetic, level⟩

end Exchanges

/-- `close 0` from Alice's phone. -/
def aliceCloses : Deliver :=
  { danish with
    centre := [0x91, 0x33, 0x96, 0x05, 0x00, 0x66, 0xF1], digits := "33600000001".toList, count := 7
    userData := SeptetPacking.pack [0x63, 0x6C, 0x6F, 0x73, 0x65, 0x20, 0x30]
    centreOctet := of_decide_eq_true rfl, digitsOctet := of_decide_eq_true rfl
    decimal := SenderAuthentication.expectedStatus.decimal, packed := rfl }

theorem alice_closes_said : Says aliceCloses "close 0" :=
  ⟨⟨[0x63, 0x6C, 0x6F, 0x73, 0x65, 0x20, 0x30], by decide +kernel, ⟨rfl, rfl⟩, rfl⟩⟩

theorem alice_closes_executed : (execute (fineEnv 0) alice oneOpen (.close 0)).1 =
    .ok "Tunnel has been closed" := by decide +kernel

theorem alice_close_exchanged : Exchanged Gsm7.standard (fun _ => false) (fineEnv 0) oneOpen
    aliceCloses "close 0" "Tunnel has been closed" := by
  have carried := spelled_executes (fineEnv 0) alice.phoneNumber "close 0" oneOpen alice
    (by decide) (.close 0) (written_spelled (.close 0) trivial)
  refine (exchanged_iff standard_documented (fun _ => false) (fineEnv 0) oneOpen aliceCloses rfl rfl
    "close 0" alice_closes_said "Tunnel has been closed" ?_).mpr
      ⟨Or.inl (by decide), closed_deliverable [0]⟩
  change replyText _ (handleRequest (fineEnv 0) alice.phoneNumber "close 0" oneOpen).1 = _
  rw [carried, alice_closes_executed, replyText]

theorem alice_close_command_exchanged : ∃ sms,
    readPdu Gsm7.standard (String.ofList aliceCloses.text) = .ok sms ∧
      answer (fun _ => false) (fineEnv 0) sms oneOpen =
        (execute (fineEnv 0) alice oneOpen (.close 0)).2.record
          [.smsSent sms.sender "Tunnel has been closed"] ∧
      ∃ atCommand pdu, submitCommands Gsm7.standard ⟨sms.sender, "Tunnel has been closed"⟩ =
          .ok (atCommand, pdu) ∧
        Delivers pdu aliceCloses.digits "Tunnel has been closed" := by
  rcases command_exchanged standard_documented (fun _ => false) (fineEnv 0) oneOpen aliceCloses rfl
    rfl "close 0" alice_closes_said (Or.inl (by decide)) alice (by decide) (.close 0)
    (written_spelled (.close 0) trivial) with ⟨sms, read, _, replies⟩
  exact ⟨sms, read, replies (by decide) _ alice_closes_executed⟩

end TelcoVecchio.WireExchange
