import BatCave.Reader.PayloadAccepts
import BatCave.RuntimeStore.ReadHealth

/-! The desktop reader against the writer's check: an envelope that the writer hands out is
read in every locale exactly where the two sides take its texts alike. -/
namespace BatCave.Reader
open BatCave.Contracts BatCave.Lib BatCave.Lib.Js BatCave.Lib.Js.Value BatCave.Lib.Result
open BatCave.Protocol (ProtocolEnvelope RuntimeSnapshotPayloadV4 encodeSnapshot nativeRules
  poolTagId validateEnvelope validateSnapshot)

section Agreement
variable {payload : RuntimeSnapshotPayloadV4}

/-- What the two sides have to take alike: white space as the reader trims it, the length of a
version that was not trimmed, and lower case as the host's locale has it. -/
@[mk_iff]
structure RulesAgree (locale : HostLocale) (payload : RuntimeSnapshotPayloadV4) : Prop where
  texts : ∀ text∈payload.texts++payload.versions, ∃ c∈text.toList, isWhitespace c=false
  source : ∃ c∈payload.source.toList, isWhitespace c=false
  versions : ∀ version∈payload.versions, version.utf8ByteSize ≤ 64
  tags : ∀ tag∈payload.system.kernelPoolTags, locale.toLocaleLowerCase
    ("system:local:pool:"++tag.tag++":"++poolKindName tag.kind)=poolTagId tag.tag tag.kind

instance (s : String) : Decidable (∃ c∈s.toList, isWhitespace c=false) :=
  List.decidableBEx _ _

instance (locale : HostLocale) : DecidablePred (RulesAgree locale) := fun payload =>
  decidable_of_iff' _ (rulesAgree_iff locale payload)

theorem blank_iff {s : String} : blank s=false ↔ ∃ c∈s.toList, isWhitespace c=false := by
  rw [blank,beq_eq_false_iff_ne,Ne,trim_length_eq_zero]
  simp only [not_forall,Bool.not_eq_true,exists_prop]

theorem readerVersion_iff {version : String} : readerVersion version=true ↔
    (∃ c∈version.toList, isWhitespace c=false) ∧ version.utf8ByteSize ≤ 64 := by
  rw [readerVersion,Bool.and_eq_true,Bool.not_eq_true',blank_iff,decide_eq_true_eq]

/-- What the writer takes the reader takes exactly where they agree. -/
theorem readerRules_agree {locale : HostLocale} (hnative : nativeRules.Take payload) :
    (readerRules locale).Take payload ↔ RulesAgree locale payload := by
  have hpool : ∀ tag kind, (readerRules locale).poolId tag kind=locale.toLocaleLowerCase
      ("system:local:pool:"++tag++":"++poolKindName kind) := fun _ _ => rfl
  have htags : ∀ tag∈payload.system.kernelPoolTags, tag.stableId=poolTagId tag.tag tag.kind :=
    hnative.tags
  simp only [readerRules_take,blank_iff,readerVersion_iff,hpool]
  constructor
  · intro h
    obtain ⟨htexts,hversions,hsource,hlowered⟩ := h
    refine ⟨?_,hsource,fun version hmem => (hversions version hmem).2,fun tag hmem => ?_⟩
    · rw [List.forall_mem_append]
      exact ⟨htexts,fun version hmem => (hversions version hmem).1⟩
    · rw [← hlowered tag hmem]
      exact htags tag hmem
  · intro h
    have hsaid := h.texts
    rw [List.forall_mem_append] at hsaid
    refine ⟨hsaid.1,fun version hmem => ⟨hsaid.2 version hmem,h.versions version hmem⟩,h.source,
      fun tag hmem => ?_⟩
    rw [h.tags tag hmem]
    exact htags tag hmem

end Agreement

section Envelope
variable {envelope : ProtocolEnvelope} {payload : RuntimeSnapshotPayloadV4}

/-- Of an envelope that the writer hands out the reader checks the payload alone. -/
theorem decodeProtocolEnvelope_wire {locale : HostLocale}
    (hevent : envelope.event=.runtimeSnapshot payload)
    (haccepted : validateEnvelope envelope=.ok ()) :
    decodeProtocolEnvelope locale (envelopeWire envelope)=.snapshot (payloadWire payload) ↔
      validatePayload locale (payloadWire payload)=.ok () := by
  rw [validateEnvelope,unit_bind_ok,unit_bind_ok,reject_ok,reject_ok,bne_eq_false_iff_eq,
    decide_eq_false_iff_not,not_lt] at haccepted
  obtain ⟨hversion,hminimum,_⟩ := haccepted
  change envelope.protocolVersion=4 at hversion
  change envelope.compatibility.minimumReaderVersion ≤ 4 at hminimum
  have hsafe : safeInteger (.nat envelope.compatibility.minimumReaderVersion)=true :=
    safeInteger_of_lt (by omega)
  have hreader : (Value.nat 4).lt (.nat envelope.compatibility.minimumReaderVersion)=false :=
    decide_eq_false (Nat.not_lt.2 hminimum)
  have hwriter : safeInteger (.nat 4)=true := safeInteger_of_lt (by omega)
  have hsame : (Value.nat 4).lt (.nat 4)=false := decide_eq_false (Nat.lt_irrefl 4)
  have hwire : (envelopeWire envelope).get "event"=
      .obj [("kind",.str "runtime_snapshot"),("payload",payloadWire payload)] := by
    change eventWire envelope.event=_
    rw [hevent,eventWire]
  have hversionWire : (envelopeWire envelope).get "protocol_version"=.nat 4 := by
    change Value.nat envelope.protocolVersion=_
    rw [hversion]
  have hcompatibility : (envelopeWire envelope).get "compatibility"=
      .obj [("minimum_reader_version",.nat envelope.compatibility.minimumReaderVersion),
        ("breaking",.bool envelope.compatibility.breaking)] := rfl
  have hlegacy : (!safeInteger (.nat 4) ||
      !safeInteger (.nat envelope.compatibility.minimumReaderVersion) || false)=false := by
    rw [hwriter,hsafe]
    rfl
  have hpayload : (Value.obj [("kind",.str "runtime_snapshot"),
      ("payload",payloadWire payload)]).get "payload"=payloadWire payload := rfl
  rw [decodeProtocolEnvelope,hwire,hversionWire,hcompatibility,hpayload]
  change (if false=true then _ else if (!safeInteger (.nat 4) ||
      !safeInteger (.nat envelope.compatibility.minimumReaderVersion) || false)=true then _
    else if (Value.nat 4).lt (.nat 4)=true then _
    else if (Value.nat 4).lt (.nat envelope.compatibility.minimumReaderVersion)=true then _
    else if ((Value.nat 4).lt (.nat 4) && envelope.compatibility.breaking)=true then _
    else if false=true then _ else if false=true then _ else if false=true then _ else _)=_ ↔ _
  rw [hlegacy,hsame,hreader]
  simp only [Bool.false_and,Bool.false_eq_true,if_false]
  cases hvalid : validatePayload locale (payloadWire payload) with
  | error error => simp
  | ok _ => simp

/-- An envelope that the writer hands out is read in a locale exactly where the two sides take
its texts alike there. -/
theorem accepted_envelope_read_iff {locale : HostLocale}
    (hevent : envelope.event=.runtimeSnapshot payload) (hsized : PayloadSized payload)
    (haccepted : validateEnvelope envelope=.ok ()) :
    decodeProtocolEnvelope locale (envelopeWire envelope)=.snapshot (payloadWire payload) ↔
      RulesAgree locale payload := by
  have hsnapshot : validateSnapshot payload=.ok () := by
    rw [validateEnvelope,unit_bind_ok,unit_bind_ok,hevent] at haccepted
    exact haccepted.2.2
  obtain ⟨hshape,hnative⟩ := Protocol.validateSnapshot_ok.1 hsnapshot
  rw [decodeProtocolEnvelope_wire hevent haccepted,validatePayload_wire hshape hsized,
    readerRules_agree hnative]

/-- A locale that lowers the letters at hand as English does. -/
def english : HostLocale := ⟨fun text => String.ofList (text.toList.map Char.toLower)⟩

/-- A capital I loses its dot. -/
def turkish : HostLocale :=
  ⟨fun text => String.ofList (text.toList.map (fun c => if c= 'I' then 'ı' else c.toLower))⟩

/-- The same machine with a pool tag of its I/O manager. -/
def pooled (payload : RuntimeSnapshotPayloadV4) : RuntimeSnapshotPayloadV4 :=
  { payload with
    system := { payload.system with
      kernelPoolTags := [⟨"system:local:pool:ionm:paged","IoNm",.paged,["ntoskrnl"],false,[]⟩] } }

theorem running_snapshot_checked : (encodeSnapshot ⟨.x86_64,⟨"1.0.0",none⟩⟩
    RuntimeStore.runningSnapshot).toOption.any
    (fun envelope => match envelope.event with
      | .runtimeSnapshot payload => decide ((validateEnvelope envelope=.ok () ∧
          PayloadSized payload ∧ payload.system.kernelPoolTags=[] ∧ RulesAgree ⟨id⟩ payload) ∧
          validateEnvelope { envelope with event := .runtimeSnapshot (pooled payload) }=.ok () ∧
          PayloadSized (pooled payload) ∧ RulesAgree english (pooled payload) ∧
          ¬RulesAgree turkish (pooled payload))
      | .protocolMismatch _ => false)=true := by
  decide +kernel

/-- A snapshot without a pool tag is read in every locale, and one whose tag has a capital I in
English but not in Turkish. -/
theorem running_snapshot_read : ∃ envelope payload,
    encodeSnapshot ⟨.x86_64,⟨"1.0.0",none⟩⟩ RuntimeStore.runningSnapshot=.ok envelope ∧
    envelope.event=.runtimeSnapshot payload ∧
    (∀ locale, decodeProtocolEnvelope locale (envelopeWire envelope)=
      .snapshot (payloadWire payload)) ∧
    ∃ tagged : ProtocolEnvelope, tagged.event=.runtimeSnapshot (pooled payload) ∧
      decodeProtocolEnvelope english (envelopeWire tagged)=
        .snapshot (payloadWire (pooled payload)) ∧
      decodeProtocolEnvelope turkish (envelopeWire tagged)≠
        .snapshot (payloadWire (pooled payload)) := by
  have hchecked := running_snapshot_checked
  cases hencoded : encodeSnapshot ⟨.x86_64,⟨"1.0.0",none⟩⟩ RuntimeStore.runningSnapshot with
  | error error =>
    rw [hencoded] at hchecked
    cases hchecked
  | ok envelope =>
    rw [hencoded] at hchecked
    dsimp only [Except.toOption,Option.any] at hchecked
    cases hevent : envelope.event with
    | protocolMismatch mismatch =>
      rw [hevent] at hchecked
      cases hchecked
    | runtimeSnapshot payload =>
      rw [hevent] at hchecked
      obtain ⟨⟨haccepted,hsized,hnoTags,hagree⟩,htagged,hpooled,hlowered,hdotless⟩ :=
        of_decide_eq_true hchecked
      let tagged : ProtocolEnvelope := { envelope with event := .runtimeSnapshot (pooled payload) }
      have hevent' : tagged.event=.runtimeSnapshot (pooled payload) := rfl
      refine ⟨envelope,payload,rfl,hevent,fun locale => ?_,tagged,hevent',?_,?_⟩
      · refine (accepted_envelope_read_iff hevent hsized haccepted).2
          ⟨hagree.texts,hagree.source,hagree.versions,?_⟩
        rw [hnoTags]
        exact List.forall_mem_nil _
      · exact (accepted_envelope_read_iff hevent' hpooled htagged).2 hlowered
      · exact fun hread => hdotless ((accepted_envelope_read_iff hevent' hpooled htagged).1 hread)

end Envelope
end BatCave.Reader
