import CertConsole.Proofs.LineNoise
import CertConsole.Proofs.LineSequence

/-!
# Lines that are cut

Silence in the middle of a line cuts it, also in the middle of a character or of an ill-formed
chunk, and each fragment is decoded on its own. The bytes of a fragment that go on with a sequence
from before it begin no character, so from its start the decoder finds in a fragment the end of what
it finds there in the course of the line (`decodeLossy_suffix`). A fragment may lack a phrase of the
line and never has one that the line has not (`cuts_invent_nothing`).
-/
namespace CertConsole

namespace Utf8

/-- A continuation byte begins no character. -/
theorem decodeLossy_tail {byte : UInt8} (isTail : IsTail byte) (rest : List UInt8) :
    decodeLossy (byte :: rest) = decodeLossy rest := by
  have none : first byte.toNat = ⟨.start, .none, true⟩ := by
    apply first_none
    unfold IsTail at isTail
    omega
  change decodeFrom .start (byte :: rest) = decodeFrom .start rest
  rw [decodeFrom, State.step, none]
  rfl

/-- What is found from the start of the decoder is the end of what is found from any other state. -/
theorem decodeLossy_suffix {state : State} (legal : state.Legal) (bytes : List UInt8) :
    decodeLossy bytes <:+ decodeFrom state bytes := by
  -- On the bytes: as long as they go on with the open sequence, they begin nothing. The first one
  -- that does not is read afresh, and from there on both are one.
  induction bytes generalizing state with
  | nil => exact List.suffix_refl []
  | cons byte bytes ih =>
    cases taken : (state.step byte.toNat).illFormed with
    | true =>
      have afresh : decodeFrom state (byte :: bytes) = decodeLossy (byte :: bytes) :=
        decodeFrom_refused taken
      exact afresh ▸ List.suffix_refl _
    | false =>
      cases state with
      | start => exact List.suffix_refl _
      | inside bits after low high =>
        have continued : low ≤ byte.toNat ∧ byte.toNat ≤ high := by
          by_contra broken
          rw [step_break broken] at taken
          cases taken
        have isTail : IsTail byte := by
          obtain ⟨lower, -, upper, -⟩ := legal
          unfold IsTail
          omega
        have later := ih (step_legal legal byte.toNat)
        rw [decodeLossy_tail isTail, decodeFrom]
        exact later.trans (List.suffix_append _ _)

/-- The characters of some of the bytes stand on end among those of all. -/
theorem decodeLossy_within (before fragment behind : List UInt8) :
    decodeLossy fragment <:+: decodeLossy (before ++ (fragment ++ behind)) := by
  have reached : (State.start.through before).Legal := through_legal start_legal before
  have found := decodeLossy_suffix reached fragment
  have whole : decodeLossy (before ++ (fragment ++ behind)) =
      decodeLossy before ++ (decodeFrom (State.start.through before) fragment ++
        decodeFrom ((State.start.through before).through fragment) behind) := by
    rw [decodeLossy, decodeFrom_append, decodeFrom_append]
    rfl
  rw [whole]
  apply found.isInfix.trans
  exact ⟨decodeLossy before, _, List.append_assoc _ _ _⟩

end Utf8

namespace Reply

open Text

/-- What a line tells another line tells, too. -/
structure TellsNoMore (line other : String) : Prop where
  accepts : acceptsUpload line = true → acceptsUpload other = true
  refuses : refusesUpload line = true → refusesUpload other = true
  confirms : confirmsSave line = true → confirmsSave other = true
  /-- A CA field of the line is one of the other. -/
  field : mentions line "CA:" = true → mentions other "CA:" = true
  /-- The line says that there is a CA certificate only where the other does. -/
  present : mentions line "CA: YES" = true → mentions other "CA: YES" = true

/-- The text of a fragment stands in that of the line before it is trimmed. -/
theorem decodeLine_within (before fragment behind : List UInt8) :
    (decodeLine fragment).toList <:+: Utf8.decodeLossy (before ++ (fragment ++ behind)) := by
  obtain ⟨front, back, whole, -, -⟩ := (trim_core (Utf8.decodeLossy fragment)).split
  have kept : trim (Utf8.decodeLossy fragment) <:+: Utf8.decodeLossy fragment :=
    ⟨front, back, whole.symm⟩
  rw [decodeLine, String.toList_ofList]
  exact kept.trans (Utf8.decodeLossy_within before fragment behind)

/-- A visible phrase in a fragment is one in the line. -/
theorem mentions_of_fragment {before fragment behind : List UInt8} {phrase : String}
    (visible : Visible phrase.toList) (mentioned : mentions (decodeLine fragment) phrase = true) :
    mentions (decodeLine (before ++ (fragment ++ behind))) phrase = true := by
  have inFragment : phrase.toList <:+: (decodeLine fragment).toList :=
    (occurs_iff _ _).mp mentioned
  have inText := inFragment.trans (decodeLine_within before fragment behind)
  rw [decodeLine, mentions_trim _ visible, mentions, occurs_iff, String.toList_ofList]
  exact inText

/-- A fragment tells no more than the line. -/
theorem fragment_tellsNoMore (before fragment behind : List UInt8) :
    TellsNoMore (decodeLine fragment) (decodeLine (before ++ (fragment ++ behind))) := by
  have kept {phrase : String} (visible : Visible phrase.toList) :
      mentions (decodeLine fragment) phrase = true →
        mentions (decodeLine (before ++ (fragment ++ behind))) phrase = true :=
    mentions_of_fragment visible
  constructor
  · exact kept (by decide)
  · unfold refusesUpload
    simp only [Bool.and_eq_true, Bool.or_eq_true]
    apply And.imp
    · exact Or.imp (kept (by decide)) (kept (by decide))
    · exact Or.imp (kept (by decide)) (kept (by decide))
  · exact kept (by decide)
  · exact kept (by decide)
  · exact kept (by decide)

end Reply

namespace Device

/-- Bytes that arrive with silence behind them. -/
def gapped (silence : Signal) (fragment : List UInt8) : List Item :=
  fragment.map .byte ++ [.signal silence]

/-- Each line read finds the next of the fragments between which a device is silent. -/
theorem reads_fragments {device : Device} (opened : device.isClosed = false)
    (timely : device.timeout ≠ 0) {silence : Signal} (silent : silence.Silent)
    {fragments : List (List UInt8)} (plain : ∀ fragment ∈ fragments, Port.lineFeed ∉ fragment)
    (waiting : device.queue = fragments.flatMap (gapped silence)) {index : Nat}
    {fragment : List UInt8} (next : fragments[index]? = some fragment) :
    Port.lineAt index device = .ok (Reply.decodeLine fragment) := by
  -- On the fragments: the first one is the first line, and the others are left.
  induction fragments generalizing device index with
  | nil => cases next
  | cons fragment' fragments ih =>
    rw [List.forall_mem_cons] at plain
    have first : FirstLine device.idle device.queue (.ok fragment')
        (fragments.flatMap (gapped silence)) := by
      have cut : FirstLine device.idle _ _ (fragments.flatMap (gapped silence)) :=
        .silenced (fragment'.map .byte) _ (Item.inner_of_plain plain.1) silent
      rw [waiting, List.flatMap_cons, gapped, List.append_assoc]
      rwa [Item.bytes_map] at cut
    obtain ⟨reads, read⟩ := readLine_first opened timely first
    cases index with
    | zero =>
      obtain rfl := Option.some.inj next
      rw [Port.lineAt_zero, read]
      rfl
    | succ index =>
      rw [Port.lineAt_succ, read]
      exact @ih (device.left (fragments.flatMap (gapped silence)) reads) opened timely plain.2 rfl
        index next

end Device

namespace Reply

/-- **Cutting a line may lose a phrase and never invents one.** However a byte string is cut into
fragments, the line of each fragment stands in the text of all bytes before it is trimmed, and tells
no more than the line of all bytes. A device that is silent behind each fragment is read so. What
all bytes tell may be told by no fragment. -/
theorem cuts_invent_nothing :
    (∀ fragments : List (List UInt8), ∀ fragment ∈ fragments,
      (decodeLine fragment).toList <:+: Utf8.decodeLossy fragments.flatten ∧
        TellsNoMore (decodeLine fragment) (decodeLine fragments.flatten)) ∧
    (∀ (fragments : List (List UInt8)) (silence : Signal) (device : Device),
      (∀ fragment ∈ fragments, Port.lineFeed ∉ fragment) → silence.Silent →
      device.isClosed = false → device.timeout ≠ 0 →
      device.queue = fragments.flatMap (Device.gapped silence) →
      ∀ index fragment, fragments[index]? = some fragment →
        Port.lineAt index device = .ok (decodeLine fragment)) ∧
    ∃ fragments : List (List UInt8), confirmsSave (decodeLine fragments.flatten) = true ∧
      ∀ fragment ∈ fragments, confirmsSave (decodeLine fragment) = false := by
  refine ⟨?_, ?_, ?_⟩
  · intro fragments fragment inside
    obtain ⟨early, late, rfl⟩ := List.append_of_mem inside
    rw [List.flatten_append, List.flatten_cons]
    constructor
    · exact decodeLine_within early.flatten fragment late.flatten
    · exact fragment_tellsNoMore early.flatten fragment late.flatten
  · intro fragments silence device plain silent opened timely waiting index fragment next
    exact Device.reads_fragments opened timely silent plain waiting next
  · refine ⟨[Utf8.encode "certificate".toList, Utf8.encode " saved".toList], ?_⟩
    decide +kernel

/-- A gap in the middle of a character, behind which its last byte and a phrase follow: the phrase
of the fragment is one of the line. -/
theorem cuts_invent_nothing_character :
    let fragments : List (List UInt8) :=
      [[0x43, 0xE2, 0x82], 0xAC :: Utf8.encode " CA: YES".toList, [0x21]]
    let device : Device := { queue := fragments.flatMap (Device.gapped .endOfData) }
    Port.lineAt 1 device = .ok "CA: YES" ∧
      "CA: YES".toList <:+: Utf8.decodeLossy fragments.flatten ∧
      Text.mentions (decodeLine fragments.flatten) "CA: YES" = true := by
  intro fragments device
  obtain ⟨within, reads, -⟩ := cuts_invent_nothing
  have line : decodeLine (0xAC :: Utf8.encode " CA: YES".toList) = "CA: YES" := by decide +kernel
  have second : 0xAC :: Utf8.encode " CA: YES".toList ∈ fragments := by simp [fragments]
  obtain ⟨stands, tells⟩ := within fragments _ second
  have plain : ∀ fragment ∈ fragments, Port.lineFeed ∉ fragment := by decide +kernel
  have read := reads fragments .endOfData device plain trivial rfl (by decide) rfl 1 _ rfl
  rw [line] at stands tells read
  exact ⟨read, stands, tells.present (by decide +kernel)⟩

end Reply

end CertConsole
