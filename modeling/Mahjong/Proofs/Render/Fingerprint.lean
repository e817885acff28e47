import Mahjong.Proofs.Json.NormalForm
import Mahjong.Proofs.Render.Rendering
import Mahjong.Proofs.Render.Request

/-!
This module contains the proof that the text that is hashed for a request can be taken apart in one
way only, although the id of a theme may hold any characters.
-/

namespace Mahjong

open Json

/--
Two divisions of a text at a colon are the same if neither end has the other end behind a colon.
-/
theorem append_colon_inj {front1 front2 end1 end2 : List Char}
    (h : front1 ++ ':' :: end1 = front2 ++ ':' :: end2)
    (h1 : ∀ between, end1 ≠ between ++ ':' :: end2)
    (h2 : ∀ between, end2 ≠ between ++ ':' :: end1)
    : front1 = front2 ∧ end1 = end2 := by
  rcases List.append_eq_append_iff.1 h with ⟨between, hfront, hend⟩ | ⟨between, hfront, hend⟩
  . cases between with
    | nil =>
      rw [List.append_nil] at hfront
      exact ⟨hfront.symm, (List.cons.inj hend).2⟩
    | cons c between => exact absurd (List.cons.inj hend).2 (h1 between)
  . cases between with
    | nil =>
      rw [List.append_nil] at hfront
      exact ⟨hfront, (List.cons.inj hend).2.symm⟩
    | cons c between => exact absurd (List.cons.inj hend).2 (h2 between)

theorem toList_fingerprintText (id : String) (request : Value) (version : String)
    : (fingerprintText id request version).toList
        =
      (id.toList ++ ':' :: request.canonicalText.toList) ++ ':' :: version.toList := by
  unfold fingerprintText joinWithColons
  simp [String.toList_append]

theorem canonicalText_ne_append_colon (v w : Value) (before : List Char)
    : v.canonicalText.toList ≠ before ++ ':' :: w.canonicalText.toList := by
  intro h
  apply Outline.not_run?_append_colon (Value.run?_canonicalText w)
  rw [← h]
  exact Value.run?_canonicalText v 0

theorem fingerprintText_inj {id1 id2 : String} {request1 request2 : Value}
    {version1 version2 : String} (hversion1 : ':' ∉ version1.toList)
    (hversion2 : ':' ∉ version2.toList)
    (h : fingerprintText id1 request1 version1 = fingerprintText id2 request2 version2)
    : id1 = id2 ∧ request1.canonicalText = request2.canonicalText ∧ version1 = version2 := by
  have hnot : ∀ {version other : List Char}, ':' ∉ version →
      ∀ between, version ≠ between ++ ':' :: other := by
    intro version other hversion between heq
    apply hversion
    simp [heq]
  have htext := congrArg String.toList h
  rw [toList_fingerprintText, toList_fingerprintText] at htext
  rcases append_colon_inj htext (hnot hversion1) (hnot hversion2) with ⟨hfront, hversion⟩
  rcases append_colon_inj hfront (canonicalText_ne_append_colon request1 request2)
    (canonicalText_ne_append_colon request2 request1) with ⟨hid, hrequest⟩
  exact ⟨String.toList_inj.1 hid, String.toList_inj.1 hrequest, String.toList_inj.1 hversion⟩

theorem fingerprintText_request_inj {request1 request2 : Request}
    (h : fingerprintText request1.themeId request1.toValue engineVersionText
        =
      fingerprintText request2.themeId request2.toValue engineVersionText)
    : request1 = request2 := by
  have hversion : ':' ∉ engineVersionText.toList := by
    decide
  rcases fingerprintText_inj hversion hversion h with ⟨_, htext, _⟩
  apply Request.eq_of_same_toValue
  exact (Value.canonicalText_eq_iff (Request.isReadable_toValue 124 request1)
    (Request.isReadable_toValue 124 request2)).1 htext

end Mahjong
