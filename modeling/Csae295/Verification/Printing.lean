import Csae295.Verification.PrintSafety
import Csae295.Verification.Receiving

/-! What the receive threads insert into `std::cout`.

A message is printed line by line behind whatever has been inserted before, and neither the text nor
a fault depends on it. So what a receive loop inserts is the log of the calls it has made. -/

namespace Csae295

open Library

/-! ## Printing behind what has been printed -/

namespace Print

variable {α β : Type}

/-- Put the text in front of what has been printed. -/
def behind (os : List Byte) (r : α × Printer) : α × Printer := (r.1, ⟨r.2.offset, os ++ r.2.os⟩)

/-- The computation prints behind what has been printed before, and does not look at it. -/
def Appends (p : Print α) : Prop :=
  ∀ offset os, p.run ⟨offset, os⟩ = (p.run ⟨offset, []⟩).map (behind os)

theorem appends_pure (a : α) : (pure a : Print α).Appends := by
  intro offset os
  change Except.ok (a, _) = Except.ok (a, _)
  rw [List.append_nil]

theorem appends_throw (e : Fault) : (throw e : Print α).Appends := fun _ _ => rfl

theorem Appends.bind {p : Print α} {f : α → Print β} (hp : p.Appends) (hf : ∀ a, (f a).Appends) :
    (p >>= f).Appends := by
  intro offset os
  rw [StateT.run_bind, StateT.run_bind, hp offset os]
  cases p.run ⟨offset, []⟩ with
  | error e => rfl
  | ok r =>
      rw [ok_bind]
      change (f r.1).run ⟨r.2.offset, os ++ r.2.os⟩ = ((f r.1).run ⟨r.2.offset, r.2.os⟩).map _
      rw [hf r.1 r.2.offset (os ++ r.2.os), hf r.1 r.2.offset r.2.os]
      cases (f r.1).run ⟨r.2.offset, []⟩ with
      | error e => rfl
      | ok r' =>
          simp only [Except.map, behind, List.append_assoc]

theorem appends_line (size : ℕ) (text : Word 8 → List Byte) : (line size text).Appends := by
  intro offset os
  change (inBuffer 1024 (text offset) >>= fun ostr => _) =
    Except.map _ (inBuffer 1024 (text offset) >>= fun ostr => _)
  cases inBuffer 1024 (text offset) with
  | error e => rfl
  | ok ostr => rfl

theorem appends_number (digits size : ℕ) (label : List Byte) (value : ℕ) :
    (number digits size label value).Appends := appends_line size _

theorem appends_texts (size : ℕ) (label first second : List Byte) :
    (texts size label first second).Appends := appends_line size _

theorem appends_digits (bytes : List Byte) (len : ℕ) : (digits bytes len).Appends := by
  intro offset os
  change (bytesToString 256 bytes len >>= fun a => _) =
    Except.map _ (bytesToString 256 bytes len >>= fun a => _)
  cases bytesToString 256 bytes len with
  | error e => rfl
  | ok str =>
      rw [ok_bind, ok_bind]
      exact appends_pure str offset os

theorem appends_string (label s : List Byte) (len : Byte) : (string label s len).Appends := by
  unfold string
  split
  · exact (appends_digits _ _).bind fun _ => appends_texts _ _ _ _
  · exact appends_pure ()

theorem appends_element (xs : List α) (i : ℕ) : (element xs i).Appends := by
  unfold element
  split
  · exact appends_pure _
  · exact appends_throw _

theorem Appends.start {p : Print Unit} (h : p.Appends) (offset : ℕ) (os : List Byte) :
    start offset os p = (start offset [] p).map (os ++ ·) := by
  rw [Print.start, Print.start, h _ os]
  cases p.run ⟨BitVec.ofNat (8 * 8) offset, []⟩ with
  | error e => rfl
  | ok r => rfl

/-- The lines of a class stand behind those of its base. -/
theorem Appends.after {p : Print Unit} (h : p.Appends) {base : List Byte → Except Fault (List Byte)}
    (hbase : ∀ os, base os = (base []).map (os ++ ·)) (offset : ℕ) (os : List Byte) :
    (base os >>= fun os => Print.start offset os p) =
      (base [] >>= fun os => Print.start offset os p).map (os ++ ·) := by
  rw [hbase os]
  cases base [] with
  | error e => rfl
  | ok text =>
      change Print.start offset (os ++ text) p = (Print.start offset text p).map (os ++ ·)
      rw [h.start offset (os ++ text), h.start offset text]
      cases Print.start offset [] p with
      | error e => rfl
      | ok lines => exact congrArg Except.ok (List.append_assoc os text lines)

end Print

open Print

/-! ## The messages -/

theorem MessageHeader.print_append (self : MessageHeader) (os : List Byte) :
    self.print os = (self.print []).map (os ++ ·) := by
  refine Appends.start ?_ 0 os
  iterate 5 refine (appends_number _ _ _ _).bind fun _ => ?_
  exact appends_number _ _ _ _

theorem Veh2CloudInh.print_append (self : Veh2CloudInh) (os : List Byte) :
    self.print os = (self.print []).map (os ++ ·) := by
  refine Appends.after ?_ self.toMessageHeader.print_append _ os
  refine (appends_digits _ _).bind fun _ => (appends_texts _ _ _ _).bind fun _ => ?_
  iterate 3
    refine (appends_number _ _ _ _).bind fun _ => (appends_string _ _ _).bind fun _ => ?_
  iterate 5 refine (appends_number _ _ _ _).bind fun _ => ?_
  exact appends_string _ _ _

theorem Cloud2VehInhRes.print_append (self : Cloud2VehInhRes) (os : List Byte) :
    self.print os = (self.print []).map (os ++ ·) := by
  refine Appends.after ?_ self.toMessageHeader.print_append _ os
  refine (appends_digits _ _).bind fun _ => (appends_texts _ _ _ _).bind fun _ => ?_
  exact appends_number _ _ _ _

namespace Veh2CloudState

theorem appends_printPassPos (passPos : List Position2D) (i n : ℕ) :
    (printPassPos passPos i n).Appends := by
  induction n generalizing i with
  | zero => exact appends_pure ()
  | succ n ih =>
      rw [printPassPos]
      refine (appends_element _ _).bind fun _ => ?_
      iterate 2 refine (appends_number _ _ _ _).bind fun _ => ?_
      exact ih (i + 1)

theorem print_append (self : Veh2CloudState) (os : List Byte) :
    self.print os = (self.print []).map (os ++ ·) := by
  refine Appends.after ?_ self.toMessageHeader.print_append _ os
  iterate 2
    refine (appends_digits _ _).bind fun _ => (appends_texts _ _ _ _).bind fun _ => ?_
  iterate 24 refine (appends_number _ _ _ _).bind fun _ => ?_
  exact appends_printPassPos _ _ _

end Veh2CloudState

namespace Veh2CloudState2

theorem appends_printElements (label : List Byte) (elements : List (Word 2)) (i n : ℕ) :
    (printElements label elements i n).Appends := by
  induction n generalizing i with
  | zero => exact appends_pure ()
  | succ n ih =>
      rw [printElements]
      refine (appends_element _ _).bind fun _ => (appends_number _ _ _ _).bind fun _ => ?_
      exact ih (i + 1)

theorem print_append (self : Veh2CloudState2) (os : List Byte) :
    self.print os = (self.print []).map (os ++ ·) := by
  refine Appends.after ?_ self.toVeh2CloudState.print_append _ os
  iterate 24 refine (appends_number _ _ _ _).bind fun _ => ?_
  iterate 2 refine (appends_printElements _ _ _ _).bind fun _ => ?_
  iterate 3 refine (appends_number _ _ _ _).bind fun _ => ?_
  exact appends_string _ _ _

end Veh2CloudState2

/-- The text of a message does not depend on what has been printed before it. -/
theorem Message.print_append (msg : Message) (os : List Byte) :
    msg.print os = (msg.print []).map (os ++ ·) := by
  cases msg with
  | header msg => exact msg.print_append os
  | inh msg => exact msg.print_append os
  | inhRes msg => exact msg.print_append os
  | state msg => exact msg.print_append os
  | state2 msg => exact msg.print_append os

/-- What `operator<<` prints of the message, wherever it is printed. -/
def Message.HasText (msg : Message) (text : List Byte) : Prop :=
  ∀ os, msg.print os = .ok (os ++ text)

theorem Message.hasText_of_print {msg : Message} {os os' : List Byte} (h : msg.print os = .ok os') :
    ∃ text, msg.HasText text ∧ os' = os ++ text := by
  rw [msg.print_append] at h
  cases htext : msg.print [] with
  | error e =>
      rw [htext] at h
      cases h
  | ok text =>
      rw [htext] at h
      refine ⟨text, fun os => ?_, (Except.ok.inj h).symm⟩
      rw [msg.print_append, htext]
      rfl

/-! ## The log of a receive loop -/

namespace Handler

/-- The handler has inserted each of the messages behind a line break, and handed it to the callback
if there is one. -/
structure Logs (first last : Handler) (msgs : List Message) (texts : List (List Byte)) : Prop where
  hasText : List.Forall₂ Message.HasText msgs texts
  os : last.os = first.os ++ texts.flatMap (utf8 "\n" ++ ·)
  calls : last.calls = if first.callback then first.calls ++ msgs else first.calls
  callback : last.callback = first.callback

variable {self self' self'' : Handler} {msgs msgs' : List Message} {texts texts' : List (List Byte)}

theorem Logs.refl (self : Handler) : Logs self self [] [] :=
  ⟨.nil, (List.append_nil _).symm, by simp, rfl⟩

theorem Logs.trans (h : Logs self self' msgs texts) (h' : Logs self' self'' msgs' texts') :
    Logs self self'' (msgs ++ msgs') (texts ++ texts') := by
  refine ⟨List.rel_append h.hasText h'.hasText, ?_, ?_, h'.callback.trans h.callback⟩
  · rw [h'.os, h.os, List.flatMap_append, List.append_assoc]
  · rw [h'.calls, h.callback, h.calls]
    split
    · exact List.append_assoc _ _ _
    · rfl

theorem logs_onMessage {msg : Message} (h : onMessage msg self = .ok self') :
    ∃ msgs texts, Logs self self' msgs texts := by
  by_cases hversion : ∀ m, msg ≠ .state2 m
  · rw [onMessage_of_version hversion] at h
    cases hprint : msg.print (self.os ++ utf8 "\n") with
    | error e =>
        rw [handle, hprint] at h
        cases h
    | ok os =>
        rw [handle_of_print hprint] at h
        cases h
        obtain ⟨text, htext, rfl⟩ := Message.hasText_of_print hprint
        refine ⟨[msg], [text], .cons htext .nil, ?_, rfl, rfl⟩
        rw [List.flatMap_singleton, List.append_assoc]
  · obtain ⟨m, hm⟩ := not_forall_not.mp hversion
    rw [hm] at h
    cases h
    exact ⟨[], [], .refl _⟩

theorem logs_onMessages {all : List Message} (h : onMessages all self = .ok self') :
    ∃ msgs texts, Logs self self' msgs texts := by
  induction all generalizing self with
  | nil =>
      cases h
      exact ⟨[], [], .refl _⟩
  | cons msg all ih =>
      rw [onMessages] at h
      cases hmsg : onMessage msg self with
      | error e =>
          rw [hmsg] at h
          cases h
      | ok next =>
          rw [hmsg, ok_bind] at h
          obtain ⟨msgs, texts, hfirst⟩ := logs_onMessage hmsg
          obtain ⟨msgs', texts', hrest⟩ := ih h
          exact ⟨_, _, hfirst.trans hrest⟩

end Handler

theorem logs_recvLoop {results : List RecvResult} {buf : Vector Byte 4096} {self self' : Handler}
    (h : recvLoop self buf results = .ok self') : ∃ msgs texts, self.Logs self' msgs texts := by
  induction results generalizing self buf with
  | nil =>
      cases h
      exact ⟨[], [], .refl _⟩
  | cons result results ih =>
      cases result with
      | shutdown =>
          cases h
          exact ⟨[], [], .refl _⟩
      | error errno =>
          rw [recvLoop] at h
          split at h
          · exact ih h
          · cases h
            exact ⟨[], [], .refl _⟩
      | data heap chunk =>
          rw [recvLoop] at h
          cases hunpack :
            Packer.unpack heap (some (chunk.into buf).toList) chunk.bytes.length true with
          | error e =>
              rw [hunpack] at h
              cases h
          | ok unpacked =>
              rw [hunpack, ok_bind] at h
              cases hmsgs : Handler.onMessages unpacked.calls self with
              | error e =>
                  rw [hmsgs] at h
                  cases h
              | ok next =>
                  rw [hmsgs, ok_bind] at h
                  obtain ⟨msgs, texts, hround⟩ := Handler.logs_onMessages hmsgs
                  obtain ⟨msgs', texts', hrest⟩ := ih h
                  exact ⟨_, _, hround.trans hrest⟩

namespace Controller

/-- Whatever bytes a receive thread gets: what it inserts into `std::cout` are the texts of the
messages that the callback is called with, one behind the other, each behind a line break and as it
would be printed on its own. -/
theorem recv_prints_calls {results : List RecvResult} {self self' : Handler} :
    ∀ thread ∈ [upSocketRecvThread, downSocketRecvThread], thread self results = .ok self' →
      ∃ msgs texts, self.Logs self' msgs texts := by
  intro thread hthread hrun
  rw [recvThread_eq hthread] at hrun
  exact logs_recvLoop hrun

/-- An INH and a heartbeat behind an output that is not empty. -/
theorem recv_prints_calls_two : ∃ (self' : Handler) (inh heartbeat : List Byte),
    inhFrame.msg.HasText inh ∧ heartbeatFrame.msg.HasText heartbeat ∧
      self'.calls = [inhFrame.msg, heartbeatFrame.msg] ∧
      self'.os = utf8 "log" ++ (utf8 "\n" ++ inh ++ (utf8 "\n" ++ heartbeat)) := by
  have hinh : inhFrame.bytes.length = 39 := by decide +kernel
  have hheartbeat : heartbeatFrame.bytes.length = 16 := MessageHeader.enc_length _ _
  let results : List RecvResult :=
    [.data default { bytes := inhFrame.bytes, pos := by omega, le := by omega },
      .data default { bytes := heartbeatFrame.bytes, pos := by omega, le := by omega }]
  have hcontinues : ∀ result ∈ results, result.Continues := by
    simp [results, RecvResult.Continues]
  have hcut : received results = [inhFrame, heartbeatFrame].map Frame.bytes := rfl
  have hdeliverable : ∀ frame ∈ [inhFrame, heartbeatFrame], frame.msg.Deliverable :=
    List.forall_mem_cons.mpr ⟨inhFrame_deliverable, List.forall_mem_singleton.mpr trivial⟩
  obtain ⟨self', hrun, hcalls⟩ := recvLoop_frames hcontinues hcut hdeliverable
    { callback := true, os := utf8 "log", calls := [] } rfl (Vector.replicate 4096 0)
  obtain ⟨msgs, texts, hlogs⟩ := recv_prints_calls upSocketRecvThread List.mem_cons_self hrun
  obtain rfl : [inhFrame.msg, heartbeatFrame.msg] = msgs := hcalls.symm.trans hlogs.calls
  obtain ⟨inh, _, hinhText, hrest, rfl⟩ := List.forall₂_cons_left_iff.mp hlogs.hasText
  obtain ⟨heartbeat, _, hheartbeatText, hnil, rfl⟩ := List.forall₂_cons_left_iff.mp hrest
  cases hnil
  exact ⟨self', inh, heartbeat, hinhText, hheartbeatText, hcalls, by rw [hlogs.os]; simp⟩

end Controller

end Csae295
