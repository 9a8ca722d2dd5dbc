import Recognizer.Files.Loading

/-!
# Which files are loaded

A file is loaded exactly if its content is the bytes of some text, and that text is accepted as a
source; and the source is then made of that text.
-/

namespace Recognizer

/-- The bytes of a text, as an array. -/
theorem Text.mk_toArray_utf8 (s : String) : ByteArray.mk (utf8 s).toArray = s.toByteArray := by
  have hbytes : (utf8 s).toByteArray = s.toByteArray := String.utf8Encode_toList
  rw [← hbytes]
  exact ByteArray.ext List.data_toByteArray.symm

/-- Bytes are well formed exactly if they are those of a text. -/
theorem Text.ofUtf8?_eq_some_iff {bytes : List UInt8} {s : String} :
    ofUtf8? bytes = some s ↔ bytes = utf8 s := by
  constructor
  · intro h
    unfold ofUtf8? String.fromUTF8? at h
    split at h
    · next hvalid =>
      have hs : ByteArray.mk bytes.toArray = s.toByteArray :=
        congrArg String.toByteArray (Option.some.inj h)
      rw [← mk_toArray_utf8] at hs
      exact List.toArray_inj (ByteArray.mk.inj hs)
    · cases h
  · rintro rfl
    unfold ofUtf8? String.fromUTF8?
    rw [mk_toArray_utf8, dif_pos s.isValidUTF8]
    rfl

/-- When a file is loaded, and what of it. -/
theorem FileSystem.load_eq_ok_iff {fs : FileSystem} {naming : Naming} {path : String}
    {limits : Limits} {s : Source} :
    fs.load path limits naming = .ok s ↔
      ∃ raw, fs.read naming path = .ok (Text.utf8 raw) ∧ Source.prepare raw limits = .ok s := by
  unfold load Source.ofContent
  constructor
  · intro h
    split at h
    · cases h
    · next bytes hread =>
      split at h
      · cases h
      · next raw hraw =>
        split at h
        · cases h
        · next source hsource =>
          cases h
          exact ⟨raw, by rw [hread, Text.ofUtf8?_eq_some_iff.1 hraw], hsource⟩
  · rintro ⟨raw, hread, hs⟩
    rw [hread]
    dsimp only
    rw [Text.ofUtf8?_eq_some_iff.2 rfl]
    dsimp only
    rw [hs]

end Recognizer
