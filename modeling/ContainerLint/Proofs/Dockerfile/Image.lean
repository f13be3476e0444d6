/-
Image references, taken apart and put together.

Colons stand in three places of a reference: before a registry's port, before the tag and
inside a digest. Which is which follows from where the first `@` and the last slash are, so
no component needs to be looked at for what it says. To put the components together again
gives the reference back, but for a mark that nothing follows: an `@` at the end, or a tag
colon with no tag behind it. Such a mark is dropped.

What is dropped makes the reference shorter, and all else stays where it is. That is why the
exception is exact: each of the two cuts keeps a front of its text, and the whole text only
if nothing is dropped.
-/
import ContainerLint.Dockerfile.Image
import ContainerLint.Proofs.Text.Stretch
import Mathlib.Data.List.TakeWhile

namespace ContainerLint.Dockerfile.Image

open ContainerLint.Text

/-! ## The two cuts -/

/-- A part behind its mark; an empty part has none. -/
def marked (mark : Char) (part : List Char) : List Char :=
  if part.isEmpty then [] else mark :: part

theorem marked_of_ne_nil {part : List Char} (h : part ≠ []) (mark : Char) :
    marked mark part = mark :: part := by
  simp [marked, h]

/-- The digest is what follows the first `@`. -/
theorem cutDigest_cases (cs : List Char) :
    ('@' ∉ cs ∧ cutDigest cs = (cs, [])) ∨
      ∃ front back, cs = front ++ '@' :: back ∧ '@' ∉ front ∧ cutDigest cs = (front, back) := by
  cases hcut : cutAt '@' cs with
  | none => exact .inl ⟨cutAt_eq_none_iff.mp hcut, by rw [cutDigest, hcut]; rfl⟩
  | some cut =>
    obtain ⟨front, back⟩ := cut
    obtain ⟨hcs, hfront⟩ := cutAt_eq_some_iff.mp hcut
    exact .inr ⟨front, back, hcs, hfront, by rw [cutDigest, hcut]; rfl⟩

/-- The last colon, if there is one, comes before the last slash. -/
def HasNoTag (cs : List Char) : Prop :=
  ∀ front back, cs = front ++ ':' :: back → ':' ∉ back → '/' ∈ back

/-- The tag is what follows the last colon, unless a slash comes after that. -/
theorem cutTag_cases (cs : List Char) :
    (HasNoTag cs ∧ cutTag cs = (cs, [])) ∨
      ∃ front back, cs = front ++ ':' :: back ∧ ':' ∉ back ∧ '/' ∉ back ∧
        cutTag cs = (front, back) := by
  unfold cutTag
  cases hcut : cutAtLast ':' cs with
  | none =>
    refine .inl ⟨fun front back hcs _ => ?_, rfl⟩
    have hcolon : ':' ∈ cs := by simp [hcs]
    exact absurd hcolon (cutAtLast_eq_none_iff.mp hcut)
  | some cut =>
    obtain ⟨front, back⟩ := cut
    obtain ⟨hcs, hback⟩ := cutAtLast_eq_some_iff.mp hcut
    by_cases hslash : '/' ∈ back
    · refine .inl ⟨fun front' back' hcs' hback' => ?_, by simp [hslash]⟩
      -- the last colon is at one place only
      have hsame := hcut.symm.trans (cutAtLast_eq_some_iff.mpr ⟨hcs', hback'⟩)
      obtain ⟨-, rfl⟩ : front = front' ∧ back = back' := by simpa using hsame
      exact hslash
    · exact .inr ⟨front, back, hcs, hback, hslash, by simp [hslash]⟩

/-- Nothing is cut off an image without a tag, though it may have a port. -/
theorem cutTag_of_hasNoTag {cs : List Char} (h : HasNoTag cs) : cutTag cs = (cs, []) := by
  rcases cutTag_cases cs with ⟨-, hcut⟩ | ⟨front, back, hcs, hcolon, hslash, -⟩
  · exact hcut
  · exact absurd (h front back hcs hcolon) hslash

/-- What follows the last colon is a tag if there is no slash in it. -/
theorem cutTag_append {tag : List Char} (hcolon : ':' ∉ tag) (hslash : '/' ∉ tag)
    (image : List Char) : cutTag (image ++ ':' :: tag) = (image, tag) := by
  have hcut : cutAtLast ':' (image ++ ':' :: tag) = some (image, tag) :=
    cutAtLast_eq_some_iff.mpr ⟨rfl, hcolon⟩
  simp [cutTag, hcut, hslash]

/-- To put a digest back behind its mark gives a front of the text, and all of it unless the
first `@` ends the text. -/
theorem append_marked_digest (cs : List Char) :
    (cutDigest cs).1 = cs.takeWhile (· != '@') ∧
      (cutDigest cs).1 ++ marked '@' (cutDigest cs).2 <+: cs ∧
      ((cutDigest cs).1 ++ marked '@' (cutDigest cs).2 = cs ↔ cs.dropWhile (· != '@') ≠ ['@']) := by
  have hall : ∀ {front : List Char}, '@' ∉ front → ∀ c ∈ front, (c != '@') = true := by
    intro front hfront c hc
    rw [bne_iff_ne]
    rintro rfl
    exact hfront hc
  rcases cutDigest_cases cs with ⟨hnone, hcut⟩ | ⟨front, back, rfl, hfront, hcut⟩
  · rw [hcut, List.dropWhile_eq_nil_iff.mpr (hall hnone),
      List.takeWhile_eq_self_iff.mpr (hall hnone)]
    simp [marked]
  · rw [hcut, List.takeWhile_append_of_pos (hall hfront),
      List.dropWhile_append_of_pos (hall hfront),
      List.takeWhile_cons_of_neg (by decide), List.dropWhile_cons_of_neg (by decide)]
    by_cases hback : back = []
    · simp [hback, marked]
    · simp [hback, marked_of_ne_nil hback]

/-- To put a tag back behind its colon gives a front of the text, and all of it unless the
text ends in a colon. -/
theorem append_marked_tag (cs : List Char) :
    (cutTag cs).1 ++ marked ':' (cutTag cs).2 <+: cs ∧
      ((cutTag cs).1 ++ marked ':' (cutTag cs).2 = cs ↔ cs.getLast? ≠ some ':') := by
  rcases cutTag_cases cs with ⟨hnone, hcut⟩ | ⟨front, back, rfl, hcolon, -, hcut⟩
  · have hlast : cs.getLast? ≠ some ':' := by
      intro hlast
      obtain ⟨front, hcs⟩ := List.getLast?_eq_some_iff.mp hlast
      exact absurd (hnone front [] hcs List.not_mem_nil) List.not_mem_nil
    simp [hcut, marked, hlast]
  · rw [hcut]
    by_cases hback : back = []
    · simp [hback, marked]
    · have hlast : (front ++ ':' :: back).getLast? = back.getLast? := by
        simp [List.getLast?_append, List.getLast?_cons, List.getLast?_eq_some_getLast hback]
      have hne : back.getLast? ≠ some ':' := fun h => hcolon (List.mem_of_getLast? h)
      simp [marked_of_ne_nil hback, hlast, hne]

/-! ## References -/

/-- The reference with the components of an image. -/
def reference (i : Image) : String :=
  i.image ++ (i.tag.map (":" ++ ·)).getD "" ++ (i.digest.map ("@" ++ ·)).getD ""

theorem toList_getD_nonEmpty (mark : Char) (part : List Char) :
    (((nonEmpty part).map (String.singleton mark ++ ·)).getD "").toList = marked mark part := by
  unfold nonEmpty marked
  split <;> simp

/-- A mark of the reference has nothing behind it: the first `@` is its end, or a colon is
the end of what stands before the first `@`. -/
def LosesMark (r : String) : Prop :=
  r.toList.dropWhile (· != '@') = ['@'] ∨ (r.toList.takeWhile (· != '@')).getLast? = some ':'

instance (r : String) : Decidable (LosesMark r) :=
  inferInstanceAs (Decidable (_ ∨ _))

/-- The reference is written back from what was cut, with a mark for each part that is not empty.
-/
theorem toList_reference_ofReference (r : String) (stage platform : Option String) :
    (ofReference r stage platform).reference.toList =
      (cutTag (cutDigest r.toList).1).1 ++ marked ':' (cutTag (cutDigest r.toList).1).2 ++
        marked '@' (cutDigest r.toList).2 := by
  have hcolon : ":" = String.singleton ':' := rfl
  have hat : "@" = String.singleton '@' := rfl
  simp only [reference, ofReference, String.toList_append, String.toList_ofList, hcolon, hat,
    toList_getD_nonEmpty]

/-- **A reference is its components put together**, unless a mark in it has nothing behind
it. -/
theorem reference_ofReference (r : String) (stage platform : Option String) :
    (ofReference r stage platform).reference = r ↔ ¬LosesMark r := by
  obtain ⟨hfront, hdigest, hdigestWhole⟩ := append_marked_digest r.toList
  obtain ⟨htag, htagWhole⟩ := append_marked_tag (cutDigest r.toList).1
  rw [← String.toList_inj, toList_reference_ofReference, LosesMark, not_or, ← hfront, ← ne_eq,
    ← ne_eq, ← hdigestWhole, ← htagWhole]
  constructor
  · intro hwhole
    -- both cuts keep a front of their text, so if nothing is missing in the end, nothing was
    have hlength := congrArg List.length hwhole
    have hdigestLength := hdigest.length_le
    simp only [List.length_append] at hlength hdigestLength
    have hkept := htag.eq_of_length_le (by simp only [List.length_append]; omega)
    exact ⟨by rwa [hkept] at hwhole, hkept⟩
  · rintro ⟨hwhole, hkept⟩
    rw [hkept, hwhole]

/-- The registry is the part before the first slash. -/
theorem registryOf_eq_some {image : List Char} {registry : String}
    (h : registryOf image = some registry) :
    registry ≠ "" ∧ ∃ name, image = registry.toList ++ '/' :: name := by
  unfold registryOf at h
  split at h
  next first name hcut =>
    split at h
    next hhost =>
      obtain rfl := Option.some.inj h
      refine ⟨?_, name, by rw [String.toList_ofList]; exact append_of_cutAt hcut⟩
      intro hempty
      have hfirst : first = [] := by simpa using congrArg String.toList hempty
      subst hfirst
      exact absurd hhost (by decide)
    next => cases h
  next => cases h

/-- **A registry is the part of the image before its name.** -/
theorem image_eq_of_registry {r : String} {stage platform : Option String} {registry : String}
    (h : (ofReference r stage platform).registry = some registry) :
    (ofReference r stage platform).image =
      registry ++ "/" ++ (ofReference r stage platform).name := by
  have himage : registryOf (ofReference r stage platform).image.toList = some registry := by
    simpa [ofReference] using h
  generalize ofReference r stage platform = i at h himage ⊢
  obtain ⟨hne, name, hname⟩ := registryOf_eq_some himage
  have hstarts : startsWith i.image (registry ++ "/") = true := by
    simp [startsWith, hname]
  have hdrop : (registry.toList ++ '/' :: name).drop (registry.length + 1) = name := by
    rw [← String.length_toList, List.drop_length_add_append]
    rfl
  have hi : i.name = String.ofList name := by
    simp [Image.name, h, hne, hstarts, hname, hdrop]
  rw [hi, ← String.toList_inj, hname]
  simp

/-- Components that a reference can tell apart: no `@` before the digest, no colon behind the
last slash but that of the tag, and no slash in the tag. None of them is empty, but the image
may be. -/
structure AreComponents (image : String) (tag digest : Option String) : Prop where
  image : '@' ∉ image.toList ∧ HasNoTag image.toList
  tag : ∀ t ∈ tag, t ≠ "" ∧ ':' ∉ t.toList ∧ '/' ∉ t.toList ∧ '@' ∉ t.toList
  digest : ∀ d ∈ digest, d ≠ ""

theorem nonEmpty_toList {t : String} (h : t ≠ "") : nonEmpty t.toList = some t := by
  simp [nonEmpty, h]

/-- What stands before the digest has no `@`, and the image and the tag are cut out of it. -/
theorem AreComponents.cutTag_eq {image : String} {tag digest : Option String}
    (h : AreComponents image tag digest) :
    '@' ∉ (image ++ (tag.map (":" ++ ·)).getD "").toList ∧
      ∃ rest, cutTag (image ++ (tag.map (":" ++ ·)).getD "").toList = (image.toList, rest) ∧
        nonEmpty rest = tag := by
  cases tag with
  | none =>
    rw [Option.map_none, Option.getD_none, String.append_empty]
    exact ⟨h.image.1, [], cutTag_of_hasNoTag h.image.2, rfl⟩
  | some t =>
    obtain ⟨hne, hcolon, hslash, hat⟩ := h.tag t rfl
    have hfront : (image ++ ((some t).map (":" ++ ·)).getD "").toList =
        image.toList ++ ':' :: t.toList := by simp
    rw [hfront]
    exact ⟨by simp [h.image.1, hat], t.toList, cutTag_append hcolon hslash _, nonEmpty_toList hne⟩

/-- The digest is cut off at the first `@`, whatever it has in it. -/
theorem AreComponents.cutDigest_eq {image : String} {tag digest : Option String}
    (h : AreComponents image tag digest) {front : String} (hfront : '@' ∉ front.toList) :
    ∃ rest, cutDigest (front ++ (digest.map ("@" ++ ·)).getD "").toList = (front.toList, rest) ∧
      nonEmpty rest = digest := by
  cases digest with
  | none =>
    rw [Option.map_none, Option.getD_none, String.append_empty, cutDigest,
      cutAt_eq_none_iff.mpr hfront]
    exact ⟨[], rfl, rfl⟩
  | some d =>
    have hcut : (front ++ ((some d).map ("@" ++ ·)).getD "").toList =
        front.toList ++ '@' :: d.toList := by simp
    rw [hcut, cutDigest, cutAt_append_cons hfront]
    exact ⟨d.toList, rfl, nonEmpty_toList (h.digest d rfl)⟩

/-- **Components are found again** in the reference that they make. -/
theorem ofReference_reference {image : String} {tag digest : Option String}
    (h : AreComponents image tag digest) (stage platform : Option String) :
    ofReference (reference { image := image, tag := tag, digest := digest }) stage platform =
      { image := image, tag := tag, digest := digest, stage := stage, platform := platform,
        registry := registryOf image.toList } := by
  obtain ⟨hfront, tagText, htag, htagText⟩ := h.cutTag_eq
  obtain ⟨digestText, hdigest, hdigestText⟩ := h.cutDigest_eq hfront
  simp only [ofReference, reference, hdigest, htag, htagText, hdigestText, String.ofList_toList]

/-- **References are taken apart without loss, and put together without confusion.** The
components of any reference make the reference again, unless it has a mark with nothing
behind it; an image with a registry is the registry, a slash and the name. And components
that a reference can tell apart are the components of the reference that they make. -/
theorem components_of_reference (stage platform : Option String) :
    (∀ r : String,
      ((ofReference r stage platform).reference = r ↔ ¬LosesMark r) ∧
      ∀ registry ∈ (ofReference r stage platform).registry,
        (ofReference r stage platform).image =
          registry ++ "/" ++ (ofReference r stage platform).name) ∧
    ∀ (image : String) (tag digest : Option String), AreComponents image tag digest →
      let i := ofReference (reference { image := image, tag := tag, digest := digest }) stage
        platform
      i.image = image ∧ i.tag = tag ∧ i.digest = digest := by
  refine ⟨fun r => ⟨reference_ofReference r stage platform, fun registry hregistry => ?_⟩, ?_⟩
  · exact image_eq_of_registry hregistry
  · intro image tag digest h
    rw [ofReference_reference h]
    exact ⟨rfl, rfl, rfl⟩

/-- A registry with a port, a tag, and a digest that has a colon, a slash and an `@` in it. -/
theorem components_of_reference_with_port :
    let r := "host:5000/team/app:1.2@sha256:a/b@c"
    AreComponents "host:5000/team/app" (some "1.2") (some "sha256:a/b@c") ∧
      ((ofReference r none none).image = "host:5000/team/app" ∧
        (ofReference r none none).tag = some "1.2" ∧
        (ofReference r none none).digest = some "sha256:a/b@c") ∧
      ¬LosesMark r ∧ (ofReference r none none).reference = r := by
  intro r
  have hcut : cutAtLast ':' "host:5000/team/app".toList =
      some ("host".toList, "5000/team/app".toList) := by decide
  have hnoTag : HasNoTag "host:5000/team/app".toList := by
    intro front back himage hback
    -- the last colon is that of the port, and a slash follows it
    have hsame := hcut.symm.trans (cutAtLast_eq_some_iff.mpr ⟨himage, hback⟩)
    obtain ⟨-, rfl⟩ := Prod.mk.inj (Option.some.inj hsame)
    decide
  have hcomponents : AreComponents "host:5000/team/app" (some "1.2") (some "sha256:a/b@c") := by
    refine ⟨⟨by decide, hnoTag⟩, ?_, ?_⟩
    · rintro t ⟨⟩
      decide
    · rintro d ⟨⟩
      decide
  have hmark : ¬LosesMark r := by decide
  have hr : reference
      { image := "host:5000/team/app"
        tag := some "1.2"
        digest := some "sha256:a/b@c" } = r := by decide
  obtain ⟨hsplit, hjoined⟩ := components_of_reference none none
  have hfound := hjoined _ _ _ hcomponents
  rw [hr] at hfound
  exact ⟨hcomponents, hfound, hmark, (hsplit r).1.mpr hmark⟩

end ContainerLint.Dockerfile.Image
