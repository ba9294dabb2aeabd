import GameGateway.Proofs.Text.Spelling
import GameGateway.Token.Claims
import Mathlib.Data.List.TakeWhile

/-!
# One form for each fingerprint

A text stands for a digest if it holds the digits of the digest and around them nothing but
blanks and, right behind them, equals signs (`Fingerprint.Denotes`).  Neither a blank nor an
equals sign is a digit, so what is taken away from such a text is all of this and none of the
digits (`denotes_iff`).  As the reader of digits is strict, the digits that are left are the ones
that the digest is written in: the form of a text is the spelling of what it stands for, which
depends on the digest alone (`canonicalize_eq_some_iff`).
-/

namespace GameGateway

/-! ## What is taken away from the ends -/

namespace Text

variable {α : Type} {drop : α → Bool}

/-- Without the items to be dropped at their end, items lack nothing else. -/
theorem exists_append_dropped (drop : α → Bool) (items : List α) :
    ∃ after, items = (items.reverse.dropWhile drop).reverse ++ after ∧
      ∀ a ∈ after, drop a = true := by
  refine ⟨(items.reverse.takeWhile drop).reverse, ?_, ?_⟩
  · rw [← List.reverse_append, List.takeWhile_append_dropWhile, List.reverse_reverse]
  · intro a ha
    exact List.mem_takeWhile_imp (List.mem_reverse.mp ha)

theorem exists_trimWhere_between (drop : α → Bool) (items : List α) :
    ∃ before after, items = before ++ trimWhere drop items ++ after ∧
      (∀ a ∈ before, drop a = true) ∧ ∀ a ∈ after, drop a = true := by
  obtain ⟨after, hafter, hdropped⟩ := exists_append_dropped drop (items.dropWhile drop)
  refine ⟨items.takeWhile drop, after, ?_, fun a => List.mem_takeWhile_imp, hdropped⟩
  rw [List.append_assoc, trimWhere, ← hafter, List.takeWhile_append_dropWhile]

end Text

namespace Fingerprint

open Base64Url (encodeChars)

variable {text other form : String} {digest : Block 32}

theorem exists_withoutPadding_append (cs : List Char) :
    ∃ padding, cs = withoutPadding cs ++ padding ∧ ∀ c ∈ padding, c = '=' := by
  obtain ⟨padding, hsplit, hpadding⟩ := Text.exists_append_dropped (· = '=') cs
  exact ⟨padding, hsplit, fun c hc => of_decide_eq_true (hpadding c hc)⟩

theorem withoutPadding_append {digits padding : List Char} (hdigits : ∀ c ∈ digits, c ≠ '=')
    (hpadding : ∀ c ∈ padding, c = '=') : withoutPadding (digits ++ padding) = digits := by
  have hkept : digits.reverse.dropWhile (· = '=') = digits.reverse := by
    rw [List.dropWhile_eq_self_iff]
    intro hlength hdropped
    exact hdigits _ (List.mem_reverse.mp (List.getElem_mem hlength)) (of_decide_eq_true hdropped)
  have hdropped : ∀ c ∈ padding.reverse, decide (c = '=') = true := fun c hc =>
    decide_eq_true (hpadding c (List.mem_reverse.mp hc))
  rw [withoutPadding, List.reverse_append, List.dropWhile_append_of_pos hdropped, hkept,
    List.reverse_reverse]

/-! ## What a text stands for -/

/-- The text is made of the digits of the digest, with any number of equals signs behind them and
any blanks around it all. -/
def Denotes (text : String) (digest : Block 32) : Prop :=
  ∃ before padding after, text.toList = before ++ (encodeChars digest.bytes ++ padding) ++ after ∧
    (∀ c ∈ before, Text.isBlankChar c = true) ∧ (∀ c ∈ padding, c = '=') ∧
    ∀ c ∈ after, Text.isBlankChar c = true

theorem digit_kept (digest : Block 32) : ∀ c ∈ encodeChars digest.bytes,
    Text.isBlankChar c = false ∧ c ≠ '=' ∧ c ≠ Claims.delimiter :=
  Base64Url.forall_mem_encodeChars (by decide) digest.bytes

theorem denotes_iff : Denotes text digest ↔
    withoutPadding (Text.trimWhere Text.isBlankChar text.toList) = encodeChars digest.bytes := by
  constructor
  · rintro ⟨before, padding, after, htext, hbefore, hpadding, hafter⟩
    have hkept : ∀ c ∈ encodeChars digest.bytes ++ padding, Text.isBlankChar c = false := by
      intro c hc
      rcases List.mem_append.mp hc with hdigit | hequals
      · exact (digit_kept digest c hdigit).1
      · rw [hpadding c hequals]
        decide
    rw [htext, Text.trimWhere_append hbefore hkept hafter]
    exact withoutPadding_append (fun c hc => (digit_kept digest c hc).2.1) hpadding
  · intro hdigits
    obtain ⟨before, after, htext, hbefore, hafter⟩ :=
      Text.exists_trimWhere_between Text.isBlankChar text.toList
    obtain ⟨padding, htrimmed, hpadding⟩ :=
      exists_withoutPadding_append (Text.trimWhere Text.isBlankChar text.toList)
    rw [hdigits] at htrimmed
    rw [htrimmed] at htext
    exact ⟨before, padding, after, htext, hbefore, hpadding, hafter⟩

/-- A digest is denoted by the digits in which it is written. -/
theorem denotes_encode (digest : Block 32) : Denotes (Base64Url.encode digest.bytes) digest :=
  ⟨[], [], [], by simp [Base64Url.encode], by simp, by simp, by simp⟩

theorem encode_inj {a b : Block 32} (h : Base64Url.encode a.bytes = Base64Url.encode b.bytes) :
    a = b := by
  have hchars : encodeChars a.bytes = encodeChars b.bytes := String.ofList_inj.mp h
  have hbytes := Base64Url.decodeChars_encodeChars a.bytes
  rw [hchars, Base64Url.decodeChars_encodeChars b.bytes] at hbytes
  exact Block.ext (Option.some.inj hbytes).symm

/-! ## The one form -/

theorem canonicalize_eq_some_iff : canonicalize text = some form ↔
    ∃ digest, Denotes text digest ∧ form = Base64Url.encode digest.bytes := by
  constructor
  · intro h
    obtain ⟨bytes, hread, hchecked⟩ := Option.bind_eq_some_iff.mp h
    split at hchecked
    · rename_i hlength
      cases hchecked
      exact ⟨⟨bytes, hlength⟩, denotes_iff.mpr (Base64Url.decodeChars_eq_some_iff.mp hread), rfl⟩
    · cases hchecked
  · rintro ⟨digest, hdenotes, rfl⟩
    have hread := Base64Url.decodeChars_eq_some_iff.mpr (denotes_iff.mp hdenotes)
    refine Option.bind_eq_some_iff.mpr ⟨digest.bytes, hread, ?_⟩
    rw [if_pos digest.length_eq]

theorem canonicalize_encode (digest : Block 32) :
    canonicalize (Base64Url.encode digest.bytes) = some (Base64Url.encode digest.bytes) :=
  canonicalize_eq_some_iff.mpr ⟨digest, denotes_encode digest, rfl⟩

/-- Two texts have one form if they stand for one digest, and only then. -/
theorem same_form_iff : (∃ form, canonicalize text = some form ∧ canonicalize other = some form) ↔
    ∃ digest, Denotes text digest ∧ Denotes other digest := by
  constructor
  · rintro ⟨form, htext, hother⟩
    obtain ⟨digest, hdenotes, rfl⟩ := canonicalize_eq_some_iff.mp htext
    obtain ⟨digest', hdenotes', hsame⟩ := canonicalize_eq_some_iff.mp hother
    exact ⟨digest, hdenotes, encode_inj hsame ▸ hdenotes'⟩
  · rintro ⟨digest, htext, hother⟩
    exact ⟨_, canonicalize_eq_some_iff.mpr ⟨digest, htext, rfl⟩,
      canonicalize_eq_some_iff.mpr ⟨digest, hother, rfl⟩⟩

/-- **A fingerprint has one form.**  A text has a form exactly if, without the blanks around it
and then without the equals signs at its end, it is what 32 bytes are written as; that is then its
form.  Forms and the fingerprints of certificates are forms of themselves, two texts have the same
form exactly if they stand for the same bytes, and a form can stand between claims. -/
theorem canonical_form_exact :
    (∀ text form, canonicalize text = some form ↔
      ∃ digest, Denotes text digest ∧ form = Base64Url.encode digest.bytes) ∧
    (∀ text digest, Denotes text digest ↔
      withoutPadding (Text.trim text).toList = (Base64Url.encode digest.bytes).toList) ∧
    (∀ text form, canonicalize text = some form →
      canonicalize form = some form ∧ Claims.delimiter ∉ form.toList ∧ form ≠ "") ∧
    (∀ certificate, canonicalize (ofCertificate certificate) = some (ofCertificate certificate)) ∧
    ∀ text other, (∃ form, canonicalize text = some form ∧ canonicalize other = some form) ↔
      ∃ digest, Denotes text digest ∧ Denotes other digest := by
  refine ⟨fun text form => canonicalize_eq_some_iff, ?_, ?_, ?_, fun text other => same_form_iff⟩
  · intro text digest
    rw [Text.trim, Base64Url.encode, String.toList_ofList, String.toList_ofList]
    exact denotes_iff
  · intro text form hform
    obtain ⟨digest, -, rfl⟩ := canonicalize_eq_some_iff.mp hform
    refine ⟨canonicalize_encode digest, ?_, ?_⟩
    · rw [Base64Url.encode, String.toList_ofList]
      intro hmem
      exact (digit_kept digest _ hmem).2.2 rfl
    · refine Base64Url.encode_ne_empty fun hnil => ?_
      have hlength := digest.length_eq
      rw [hnil] at hlength
      cases hlength
  · intro certificate
    exact canonicalize_encode (Sha256.digest certificate)

/-- The digest of zeros, pasted with two equals signs between a wide blank and a line break. -/
theorem canonical_form_pasted :
    canonicalize "\u2003AAAAAAAAAAAAAAAAAAAAAAAAAAAAAAAAAAAAAAAAAAA==\n" =
      some "AAAAAAAAAAAAAAAAAAAAAAAAAAAAAAAAAAAAAAAAAAA" ∧
    canonicalize "AAAAAAAAAAAAAAAAAAAAAAAAAAAAAAAAAAAAAAAAAAA" =
      some "AAAAAAAAAAAAAAAAAAAAAAAAAAAAAAAAAAAAAAAAAAA" ∧
    ∃ digest, Denotes "\u2003AAAAAAAAAAAAAAAAAAAAAAAAAAAAAAAAAAAAAAAAAAA==\n" digest ∧
      Denotes "AAAAAAAAAAAAAAAAAAAAAAAAAAAAAAAAAAAAAAAAAAA" digest := by
  have hform : canonicalize "\u2003AAAAAAAAAAAAAAAAAAAAAAAAAAAAAAAAAAAAAAAAAAA==\n" =
      some "AAAAAAAAAAAAAAAAAAAAAAAAAAAAAAAAAAAAAAAAAAA" := by decide +kernel
  obtain ⟨-, -, hforms, -, hsame⟩ := canonical_form_exact
  obtain ⟨hagain, -, -⟩ := hforms _ _ hform
  exact ⟨hform, hagain, (hsame _ _).mp ⟨_, hform, hagain⟩⟩

end Fingerprint

end GameGateway
