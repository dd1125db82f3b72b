import Handoff.Proofs.Text.Truncate
import Handoff.Proofs.Text.Utf8
import Handoff.Proofs.Upload.Classification

/-!
What the error about an unexpected answer keeps of its body: the longest start of it, in whole characters,
that takes at most 512 bytes.
-/

namespace Handoff.Upload

/-- The body of an answer as text, with U+FFFD where it is not UTF-8. -/
def bodyText (status : Status) (body : Bytes) : List Char := (Text.decodeLossy (answerBody status body)).toList

/-- What is kept of a text is the longest start that fits. -/
structure Keeps (text : List Char) (kept : String) : Prop where
  longest : Text.LongestStart 512 text kept.toList
  whole_iff : kept.toList = text ↔ Text.byteLength text ≤ 512
  nearly_full : 512 < Text.byteLength text →
    509 ≤ Text.byteLength kept.toList ∧ Text.byteLength kept.toList ≤ 512

theorem keeps_keptBody (status : Status) (body : Bytes) :
    Keeps (bodyText status body) (keptBody (answerBody status body)) := by
  have hkept : (keptBody (answerBody status body)).toList = Text.truncate 512 (bodyText status body) :=
    String.toList_ofList
  have hlongest : Text.LongestStart 512 (bodyText status body) (keptBody (answerBody status body)).toList := by
    rw [hkept]
    exact Text.longestStart_truncate 512 _
  refine ⟨hlongest, hlongest.eq_iff, fun hlong => ⟨?_, hlongest.fits⟩⟩
  have hnear := hlongest.lt_add_four hlong
  omega

section
variable {network : Network} {s : TransmitSection} {method : UploadMethod} {call : Gather.Call}
  {status : Status} {body : Bytes}

theorem exchange_judged (hserver : network call.url = some (.response status body))
    (hreceived : (exchange network s method call).received ≠ none) :
    (exchange network s method call).result = judge call.url (.response status body) := by
  rcases exchange_cases network s method call with ⟨_, hexchange⟩ | ⟨answer, _, hanswer, _, hexchange⟩
  · rw [hexchange] at hreceived
    exact absurd rfl hreceived
  · rw [hserver] at hanswer
    rw [hexchange, Option.some.inj hanswer]

/-- An answer without success ends the exchange with an error that keeps the longest start of its body. Any
text is cut to any number of bytes in that way. -/
theorem exchange_keeps_longest (hserver : network call.url = some (.response status body))
    (hreceived : (exchange network s method call).received ≠ none) (hfinal : status.isFinal = true)
    (hrange : ¬ (200 ≤ status.code ∧ status.code ≤ 299)) :
    (∃ kept, (exchange network s method call).result = .error (.unexpectedStatus call.url status kept) ∧
      Keeps (bodyText status body) kept) ∧
    ∀ limit text, Text.CutsSafely limit text := by
  refine ⟨⟨keptBody (answerBody status body), ?_, keeps_keptBody status body⟩, Text.truncate_cuts_safely⟩
  rw [exchange_judged hserver hreceived, judge_unexpected hfinal hrange]

end

/-- Six hundred bytes of two-byte characters. -/
def accents : List Char := List.replicate 300 'é'

def complaining : Network := fun _ => some (.response ⟨502⟩ (Text.encode accents))

/-- An upload that gets a long answer without success. -/
def longUpload : Gather.Call := ⟨aggregatorUrl, tarball, ContentType.ofPath? tarball, 2, .ok [0x1F, 0x8B]⟩

/-- Of a long answer as much is kept as fits. -/
theorem exchange_keeps_accents :
    ∃ kept, (exchange complaining {} .put longUpload).result =
        .error (.unexpectedStatus aggregatorUrl ⟨502⟩ kept) ∧
      Text.LongestStart 512 accents kept.toList ∧ 509 ≤ Text.byteLength kept.toList := by
  have hsends : Sends {} aggregatorUrl := by decide +kernel
  have hanswer : complaining longUpload.url = some (.response ⟨502⟩ (Text.encode accents)) := rfl
  have hreceived : (exchange complaining {} .put longUpload).received ≠ none := by
    have hsent : exchange complaining {} .put longUpload =
        ⟨judge aggregatorUrl (.response ⟨502⟩ (Text.encode accents)),
          some (fileRequest .put aggregatorUrl tarball [0x1F, 0x8B])⟩ := exchange_sent hanswer hsends 2
    rw [hsent]
    exact nofun
  have htext : bodyText ⟨502⟩ (Text.encode accents) = accents := by
    have hbody : answerBody ⟨502⟩ (Text.encode accents) = Text.encode accents := rfl
    rw [bodyText, hbody, Text.decodeLossy_encode, String.toList_ofList]
  have hlong : 512 < Text.byteLength accents := by decide +kernel
  obtain ⟨⟨kept, hresult, hkeeps⟩, _⟩ :=
    exchange_keeps_longest hanswer hreceived (by decide) (by decide)
  rw [htext] at hkeeps
  exact ⟨kept, hresult, hkeeps.longest, (hkeeps.nearly_full hlong).1⟩

end Handoff.Upload
