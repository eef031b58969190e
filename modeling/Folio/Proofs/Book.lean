import Folio.Book
import Folio.Proofs.Text.Hex
import Folio.Proofs.Text.Utf8

/-!
# Folio.Proofs.Book

What a book is known by.  The id of a book is the digest of the URL of its
source with its own written right behind it, and nothing tells where the one
ends and the other begins.  So two books share an id exactly when the joined
texts are the same or make the digest collide (`generateId_eq_iff`), and the
joined texts are the same not only for the same two URLs: the source of one may
go on with the beginning of the URL of the other book
(`generateId_eq_nestedOrigin`).  Between sources whose URLs have one length that
cannot be (`eq_of_generateId_eq`).
-/

namespace Folio

/-- Two messages with one digest. -/
def Digest.Sha256.Collide (message other : List UInt8) : Prop :=
  message ≠ other ∧ digest message = digest other

theorem Digest.Sha256.digest_eq_iff {message other : List UInt8} :
    digest message = digest other ↔ message = other ∨ Collide message other := by
  rw [Collide]
  by_cases h : message = other
  · simp [h]
  · simp [h]

namespace Book

open Text

variable {origin url origin' url' : String}

/-! ## Ids -/

/-- How the URLs of a source and of a book, and those of another source and another book, come
to have one id. -/
inductive SharesId (origin url origin' url' : String) : Prop
  | same (horigin : origin = origin') (hurl : url = url')
  /-- The other source goes on with the beginning of the URL of the book. -/
  | shifted (part : String) (hpart : part ≠ "") (horigin : origin' = origin ++ part)
      (hurl : url = part ++ url')
  /-- The source goes on with the beginning of the URL of the other book. -/
  | shiftedBack (part : String) (hpart : part ≠ "") (horigin : origin = origin' ++ part)
      (hurl : url' = part ++ url)
  | collision
      (h : Digest.Sha256.Collide (Utf8.bytes (origin ++ url)) (Utf8.bytes (origin' ++ url')))

theorem eq_or_shifted {part : List Char} (horigin : origin'.toList = origin.toList ++ part)
    (hurl : url.toList = part ++ url'.toList) : (origin = origin' ∧ url = url') ∨
      ∃ part, part ≠ "" ∧ origin' = origin ++ part ∧ url = part ++ url' := by
  have horigin' : origin' = origin ++ String.ofList part := by
    rw [← String.toList_inj, String.toList_append, String.toList_ofList, horigin]
  have hurl' : url = String.ofList part ++ url' := by
    rw [← String.toList_inj, String.toList_append, String.toList_ofList, hurl]
  by_cases hpart : String.ofList part = ""
  · exact Or.inl (by simp [horigin', hurl', hpart])
  · exact Or.inr ⟨_, hpart, horigin', hurl'⟩

/-- Where two texts in a row can be parted. -/
theorem append_eq_append_iff : origin ++ url = origin' ++ url' ↔
    (origin = origin' ∧ url = url') ∨
      (∃ part, part ≠ "" ∧ origin' = origin ++ part ∧ url = part ++ url') ∨
      ∃ part, part ≠ "" ∧ origin = origin' ++ part ∧ url' = part ++ url := by
  constructor
  · intro h
    have hlist : origin.toList ++ url.toList = origin'.toList ++ url'.toList := by
      rw [← String.toList_append, ← String.toList_append, h]
    rcases List.append_eq_append_iff.mp hlist with ⟨part, horigin, hurl⟩ | ⟨part, horigin, hurl⟩
    · exact (eq_or_shifted horigin hurl).imp_right Or.inl
    · rcases eq_or_shifted horigin hurl with ⟨rfl, rfl⟩ | hshifted
      · exact Or.inl ⟨rfl, rfl⟩
      · exact Or.inr (Or.inr hshifted)
  · rintro (⟨rfl, rfl⟩ | ⟨part, -, rfl, rfl⟩ | ⟨part, -, rfl, rfl⟩)
    · rfl
    · rw [String.append_assoc]
    · rw [String.append_assoc]

theorem generateId_eq_iff_append : generateId origin url = generateId origin' url' ↔
    origin ++ url = origin' ++ url' ∨
      Digest.Sha256.Collide (Utf8.bytes (origin ++ url)) (Utf8.bytes (origin' ++ url')) := by
  rw [generateId, generateId, toHex_inj, ← Utf8.bytes_append, ← Utf8.bytes_append,
    Digest.Sha256.digest_eq_iff, Utf8.bytes_inj]

/-- **Ids.** -/
theorem generateId_eq_iff :
    generateId origin url = generateId origin' url' ↔ SharesId origin url origin' url' := by
  rw [generateId_eq_iff_append, append_eq_append_iff]
  constructor
  · rintro ((⟨horigin, hurl⟩ | ⟨part, hpart, horigin, hurl⟩ | ⟨part, hpart, horigin, hurl⟩) | h)
    · exact .same horigin hurl
    · exact .shifted part hpart horigin hurl
    · exact .shiftedBack part hpart horigin hurl
    · exact .collision h
  · rintro (⟨horigin, hurl⟩ | ⟨part, hpart, horigin, hurl⟩ | ⟨part, hpart, horigin, hurl⟩ | h)
    · exact Or.inl (Or.inl ⟨horigin, hurl⟩)
    · exact Or.inl (Or.inr (Or.inl ⟨part, hpart, horigin, hurl⟩))
    · exact Or.inl (Or.inr (Or.inr ⟨part, hpart, horigin, hurl⟩))
    · exact Or.inr h

/-- Two sources whose URLs have one length give no two books one id, unless the digest
collides. -/
theorem eq_of_generateId_eq (hlength : origin.length = origin'.length)
    (hcollide : ¬Digest.Sha256.Collide (Utf8.bytes (origin ++ url)) (Utf8.bytes (origin' ++ url')))
    (h : generateId origin url = generateId origin' url') : origin = origin' ∧ url = url' := by
  have hpos {part : String} (hpart : part ≠ "") : part.length ≠ 0 :=
    mt String.length_eq_zero_iff.mp hpart
  rcases generateId_eq_iff.mp h with
    ⟨horigin, hurl⟩ | ⟨part, hpart, horigin, -⟩ | ⟨part, hpart, horigin, -⟩ | hcollision
  · exact ⟨horigin, hurl⟩
  · have hlonger := hpos hpart
    rw [horigin, String.length_append] at hlength
    omega
  · have hlonger := hpos hpart
    rw [horigin, String.length_append] at hlength
    omega
  · exact absurd hcollision hcollide

/-- A source whose URL goes on with the beginning of the URL of a book of another source. -/
theorem generateId_eq_nestedOrigin :
    generateId "https://p.com/" "https://s.com/https://t.com/1" =
      generateId "https://p.com/https://s.com/" "https://t.com/1" ∧
    "https://p.com/" ≠ "https://p.com/https://s.com/" ∧
    "https://s.com/https://t.com/1" ≠ "https://t.com/1" := by
  have hjoined : Utf8.bytes "https://p.com/" ++ Utf8.bytes "https://s.com/https://t.com/1" =
      Utf8.bytes "https://p.com/https://s.com/" ++ Utf8.bytes "https://t.com/1" := by decide
  exact ⟨by rw [generateId, generateId, hjoined], by decide, by decide⟩

end Book

end Folio
