/-
Headers over several lines.

The header of a logical line is its text, without the bodies of heredocs. It may be laid
out over several lines: a backslash ends every part but the last, blanks may stand behind
the backslash, and comment lines below it. `Header.run_lines` says that the layout does
not matter: what the assembly does behind a header depends on its parts, trimmed and with
a space between neighbours, and on nothing else but the lines that it has collected.

Behind a header stand the bodies of its heredocs. How many lines they take depends on the
markers and on these lines alone (`TakeBodies`), neither on where the header stands nor
on what has been collected so far. So a document that starts with a header reads as the one
in which the header stands on one line, with all that follows moved up.
-/
import ContainerLint.Proofs.Dockerfile.Document
import ContainerLint.Proofs.Text.Stretch
import Mathlib.Data.List.TakeWhile

namespace ContainerLint.Dockerfile

open ContainerLint.Text

/-! ## Heredocs -/

/-- Markers take their bodies out of the lines behind a header, one after the other, each up to
the first line that ends it: the lines that are taken, and the bodies. -/
inductive TakeBodies : List Marker → List (List Char) → List (List Char) → Prop
  | none : TakeBodies [] [] []
  | body {marker : Marker} {waiting : List Marker} {rows tail bodies : List (List Char)}
      {closing : List Char} : (∀ raw ∈ rows, marker.closes raw = false) →
      marker.closes closing = true → TakeBodies waiting tail bodies →
      TakeBodies (marker :: waiting) (rows ++ closing :: tail)
        (join ['\n'] (rows.map marker.bodyLine) :: bodies)

/-- Without markers, nothing is taken. -/
theorem TakeBodies.eq_nil {tail bodies : List (List Char)} (h : TakeBodies [] tail bodies) :
    tail = [] ∧ bodies = [] := by
  cases h
  exact ⟨rfl, rfl⟩

namespace Assembly

/-! ## What follows a step -/

/-- The logical lines of the rest of a document behind a step. -/
def runFrom (result : Assembly × Option LogicalLine) (number : Nat) (lines : List (List Char)) :
    List (Except ParseError LogicalLine) :=
  result.2.toList.map .ok ++ result.1.run number lines

/-- A run takes its lines one at a time. -/
theorem run_cons (state : Assembly) (number : Nat) (raw : List Char) (lines : List (List Char)) :
    state.run number (raw :: lines) = runFrom (state.step number raw) (number + 1) lines := by
  rw [run, runFrom]
  rcases state.step number raw with ⟨next, _ | l⟩ <;> rfl

/-! ## Bodies -/

/-- Lines that do not end the body of a marker go into it. -/
theorem run_heredoc_append {marker : Marker} {rows : List (List Char)}
    (h : ∀ raw ∈ rows, marker.closes raw = false) (line : Nat) (text : List Char)
    (physical : List (List Char)) (waiting : List Marker) (body bodies : List (List Char))
    (number : Nat) (lines : List (List Char)) :
    (heredoc line text physical marker waiting body bodies).run number (rows ++ lines) =
      (heredoc line text (rows.reverse ++ physical) marker waiting
        ((rows.map marker.bodyLine).reverse ++ body) bodies).run (number + rows.length) lines := by
  induction rows generalizing physical body number with
  | nil => rfl
  | cons raw rows ih =>
    rw [List.forall_mem_cons] at h
    have hnumber : number + 1 + rows.length = number + (raw :: rows).length := by
      rw [List.length_cons]
      omega
    rw [List.cons_append, run_cons, step, if_neg (by simp [h.1])]
    dsimp only
    rw [runFrom, Option.toList_none, List.map_nil, List.nil_append, ih h.2, hnumber]
    simp

/-- **Behind a complete header, its markers take their bodies**, and all else is read as if
nothing had been before it. -/
theorem runFrom_of_takeBodies {waiting : List Marker} {tail bodies : List (List Char)}
    (h : TakeBodies waiting tail bodies) (line : Nat) (text : List Char)
    (physical done : List (List Char)) (number : Nat) (back : List (List Char)) :
    runFrom (afterText line text physical waiting done) number (tail ++ back) =
      .ok ⟨line, text, physical.reverse ++ tail, done.reverse ++ bodies⟩ ::
        idle.run (number + tail.length) back := by
  induction h generalizing physical done number with
  | none =>
    rw [List.append_nil, List.append_nil]
    rfl
  | @body marker waiting rows tail bodies closing hrows hclosing hrest ih =>
    have hnumber : number + rows.length + 1 + tail.length =
        number + (rows ++ closing :: tail).length := by
      rw [List.length_append, List.length_cons]
      omega
    rw [afterText, runFrom, Option.toList_none, List.map_nil, List.nil_append, List.append_assoc,
      run_heredoc_append hrows, List.cons_append, run_cons, step, if_pos hclosing, ih, hnumber]
    simp

/-- The markers find their bodies, or the document ends before they do. The induction is on
the markers; the lines for one of them are those before the first that ends its body. -/
theorem exists_takeBodies_or_error (waiting : List Marker) (lines : List (List Char)) :
    (∃ tail back bodies, lines = tail ++ back ∧ TakeBodies waiting tail bodies) ∨
    ∃ word, ∀ line text physical done number,
      runFrom (afterText line text physical waiting done) number lines =
        [.error (.malformed (.unterminatedHeredoc word) line none)] := by
  induction waiting generalizing lines with
  | nil => exact .inl ⟨[], lines, [], rfl, .none⟩
  | cons marker waiting ih =>
    -- the first body goes on to the first line that closes it, if there is one
    have hopen : ∀ raw ∈ lines.takeWhile (!marker.closes ·), marker.closes raw = false :=
      fun raw hraw => by simpa using List.mem_takeWhile_imp hraw
    have hsplit := List.takeWhile_append_dropWhile (p := (!marker.closes ·)) (l := lines)
    cases hdrop : lines.dropWhile (!marker.closes ·) with
    | nil =>
      rw [hdrop] at hsplit
      refine .inr ⟨String.ofList marker.word, fun line text physical done number => ?_⟩
      rw [← hsplit, afterText, runFrom, run_heredoc_append hopen]
      rfl
    | cons closing rest =>
      have hclosing : marker.closes closing = true := by
        simpa [hdrop] using List.head_dropWhile_not (!marker.closes ·) (l := lines) (by simp [hdrop])
      rw [hdrop] at hsplit
      rcases ih rest with ⟨tail, back, bodies, rfl, hbodies⟩ | ⟨word, hrun⟩
      · refine .inl ⟨_, back, _, ?_, .body hopen hclosing hbodies⟩
        rw [List.append_assoc, List.cons_append, hsplit]
      · refine .inr ⟨word, fun line text physical done number => ?_⟩
        rw [← hsplit, afterText, runFrom, run_heredoc_append hopen, run_cons, step,
          if_pos hclosing, hrun]
        rfl

/-- What the assembly makes of the lines behind a complete header. -/
theorem runFrom_afterText (text : List Char) (waiting : List Marker)
    (lines : List (List Char)) :
    (∃ bodies tail back, lines = tail ++ back ∧ ∀ line physical number,
      runFrom (afterText line text physical waiting []) number lines =
        .ok ⟨line, text, physical.reverse ++ tail, bodies⟩ ::
          idle.run (number + tail.length) back) ∨
    ∃ word, ∀ line physical number,
      runFrom (afterText line text physical waiting []) number lines =
        [.error (.malformed (.unterminatedHeredoc word) line none)] := by
  rcases exists_takeBodies_or_error waiting lines with ⟨tail, back, bodies, rfl, h⟩ | ⟨word, hrun⟩
  · exact .inl ⟨bodies, tail, back, rfl, fun line physical number =>
      runFrom_of_takeBodies h line text physical [] number back⟩
  · exact .inr ⟨word, fun line physical number => hrun line text physical [] number⟩

end Assembly

/-! ## Parts of a header -/

/-- A text that may be a part of a header: it is neither blank nor a comment. -/
structure IsPart (part : List Char) : Prop where
  notBlank : allBlank part = false
  notComment : isCommentLine part = false

theorem IsPart.append_backslash {part : List Char} (h : IsPart part) (blanks : List Char) :
    IsPart (part ++ '\\' :: blanks) := by
  obtain ⟨front, c, back, rfl, hfront, hc⟩ := exists_first_of_not_allBlank h.notBlank
  have hcomment := h.notComment
  rw [isCommentLine, trim_append_cons hfront hc] at hcomment
  constructor
  · simp [allBlank, hc]
  · rw [List.append_assoc, List.cons_append, isCommentLine, trim_append_cons hfront hc]
    exact hcomment

/-- A backslash at the end, blanks apart, continues the line. -/
theorem continued?_backslash (part : List Char) {blanks : List Char}
    (hblanks : allBlank blanks = true) : continued? (part ++ '\\' :: blanks) = some part := by
  rw [continued?, trimRight_append_cons (by decide), trimRight_of_allBlank hblanks,
    List.reverse_concat]
  simp

/-- Only a backslash at the end continues the line. -/
theorem continued?_eq_none {part : List Char} (h : (trimRight part).getLast? ≠ some '\\') :
    continued? part = none := by
  rw [continued?]
  split
  next front hreverse =>
    rw [List.getLast?_eq_head?_reverse, hreverse] at h
    exact absurd rfl h
  next => rfl

/-- Blanks at the end of a part do not show in the joined text. -/
theorem joinParts_trimRight_cons (part : List Char) (parts : List (List Char)) :
    joinParts (trimRight part :: parts).reverse = joinParts (part :: parts).reverse := by
  simp only [joinParts, List.reverse_cons, List.map_append, List.map_cons, List.map_nil,
    trim_trimRight]

/-- Parts of a header are joined by spaces; none of them is left out. -/
theorem joinParts_eq {parts : List (List Char)} (h : ∀ part ∈ parts, allBlank part = false) :
    joinParts parts = join [' '] (parts.map trim) := by
  have hkept : ∀ piece ∈ parts.map trim, (!piece.isEmpty) = true := by
    intro piece hpiece
    obtain ⟨part, hpart, rfl⟩ := List.mem_map.mp hpiece
    obtain ⟨c, hc, -⟩ := (ends_of_trim (h part hpart)).1
    obtain ⟨cs, hcs⟩ := List.head?_eq_some_iff.mp hc
    rw [hcs]
    rfl
  rw [joinParts, List.filter_eq_self.mpr hkept]

namespace Assembly

variable {line number : Nat} {physical parts : List (List Char)} {part blanks : List Char}

theorem step_idle_of_isPart (h : IsPart part) (number : Nat) :
    idle.step number part = addPart number [] [] part := by
  simp [step, h.notBlank, h.notComment]

theorem step_joining_of_isPart (h : IsPart part) :
    (joining line physical parts).step number part = addPart line physical parts part := by
  simp [step, h.notComment]

/-- A part that goes on is kept, without its backslash. -/
theorem addPart_backslash (hblanks : allBlank blanks = true) :
    addPart line physical parts (part ++ '\\' :: blanks) =
      (.joining line ((part ++ '\\' :: blanks) :: physical) (part :: parts), none) := by
  simp only [addPart, continued?_backslash part hblanks]

/-- A part that does not go on completes the text. -/
theorem addPart_last (hlast : (trimRight part).getLast? ≠ some '\\') :
    addPart line physical parts part =
      afterText line (joinParts (part :: parts).reverse) (part :: physical)
        (markersOf (joinParts (part :: parts).reverse)) [] := by
  simp only [addPart, continued?_eq_none hlast, joinParts_trimRight_cons]

/-- Comment lines below a backslash are collected and have no other effect. -/
theorem run_joining_comments {comments : List (List Char)}
    (h : ∀ comment ∈ comments, isCommentLine comment = true) (lines : List (List Char)) :
    (joining line physical parts).run number (comments ++ lines) =
      (joining line (comments.reverse ++ physical) parts).run (number + comments.length)
        lines := by
  induction comments generalizing number physical with
  | nil => rfl
  | cons comment comments ih =>
    rw [List.forall_mem_cons] at h
    have hstep : (joining line physical parts).step number comment =
        (joining line (comment :: physical) parts, none) := by
      simp [step, h.1]
    have hnumber : number + 1 + comments.length = number + (comment :: comments).length := by
      rw [List.length_cons]
      omega
    rw [List.cons_append, run_cons, hstep, runFrom, Option.toList_none, List.map_nil,
      List.nil_append, ih h.2, hnumber, List.reverse_cons, List.append_assoc,
      List.singleton_append]

end Assembly

/-! ## Layouts -/

/-- How a header goes on behind the backslash of a line. -/
structure Continuation where
  /-- What stands behind the backslash. -/
  blanks : List Char
  /-- The comment lines below. -/
  comments : List (List Char)
  /-- The next part. -/
  part : List Char

/-- Only blanks follow the backslash, and then only comments, each on its line. -/
structure Continuation.IsProper (c : Continuation) : Prop where
  blanks : allBlank c.blanks = true ∧ IsOnOneLine c.blanks
  comments : ∀ comment ∈ c.comments, isCommentLine comment = true ∧ IsOnOneLine comment

/-- The physical lines of a header that starts with a part and goes on from there. -/
def layOut : List Char → List Continuation → List (List Char)
  | part, [] => [part]
  | part, c :: more => (part ++ '\\' :: c.blanks) :: (c.comments ++ layOut c.part more)

/-- The parts of such a header. -/
def partsOf (part : List Char) (more : List Continuation) : List (List Char) :=
  part :: more.map Continuation.part

/-- **The assembly behind a header**, from a state in which the first line of the header is
taken as a part. -/
theorem Assembly.run_layOut {part : List Char} {more : List Continuation}
    (hparts : ∀ p ∈ partsOf part more, IsPart p) (hmore : ∀ c ∈ more, c.IsProper)
    (hlast : ∀ p ∈ (partsOf part more).getLast?, (trimRight p).getLast? ≠ some '\\')
    {state : Assembly} {line number : Nat} {physical parts : List (List Char)}
    (hstate : ∀ p, IsPart p → state.step number p = addPart line physical parts p)
    (lines : List (List Char)) :
    state.run number (layOut part more ++ lines) =
      runFrom (afterText line (joinParts (parts.reverse ++ partsOf part more))
          ((layOut part more).reverse ++ physical)
          (markersOf (joinParts (parts.reverse ++ partsOf part more))) [])
        (number + (layOut part more).length) lines := by
  induction more generalizing part state number physical parts with
  | nil =>
    have hpart : IsPart part := hparts part List.mem_cons_self
    rw [layOut, List.singleton_append, run_cons, hstate part hpart,
      addPart_last (hlast part rfl), List.reverse_cons]
    rfl
  | cons c more ih =>
    have hpart : IsPart part := hparts part List.mem_cons_self
    have hc : c.IsProper := hmore c List.mem_cons_self
    have hcomments : ∀ comment ∈ c.comments, isCommentLine comment = true :=
      fun comment h => (hc.comments comment h).1
    -- the part is kept and the comments are passed over, then the rest follows
    rw [layOut, List.cons_append, List.append_assoc, run_cons,
      hstate _ (hpart.append_backslash c.blanks), addPart_backslash hc.blanks.1, runFrom,
      Option.toList_none, List.map_nil, List.nil_append, run_joining_comments hcomments]
    rw [ih (fun p hp => hparts p (List.mem_cons_of_mem part hp))
      (fun d hd => hmore d (List.mem_cons_of_mem c hd)) (fun p hp => hlast p hp)
      (fun p hp => step_joining_of_isPart hp)]
    have hnumber : number + 1 + c.comments.length + (layOut c.part more).length =
        number + ((part ++ '\\' :: c.blanks) :: (c.comments ++ layOut c.part more)).length := by
      simp only [List.length_cons, List.length_append]
      omega
    have hphysical : (layOut c.part more).reverse ++
          (c.comments.reverse ++ (part ++ '\\' :: c.blanks) :: physical) =
        ((part ++ '\\' :: c.blanks) :: (c.comments ++ layOut c.part more)).reverse ++ physical := by
      simp only [List.reverse_cons, List.reverse_append, List.append_assoc, List.singleton_append]
    have hjoined : (part :: parts).reverse ++ partsOf c.part more =
        parts.reverse ++ partsOf part (c :: more) := by
      simp only [partsOf, List.reverse_cons, List.append_assoc, List.singleton_append,
        List.map_cons]
    rw [hnumber, hphysical, hjoined]

/-- Lines that a header takes up, and the text that it says with them. -/
inductive LaysOut : List (List Char) → List Char → Prop
  | intro {first : List Char} {more : List Continuation}
      (hparts : ∀ p ∈ partsOf first more, IsPart p) (hmore : ∀ c ∈ more, c.IsProper)
      (hlast : ∀ p ∈ (partsOf first more).getLast?, (trimRight p).getLast? ≠ some '\\') :
      LaysOut (layOut first more) (join [' '] ((partsOf first more).map trim))

/-- **A header leads to where its text leads**, however it is laid out. -/
theorem LaysOut.run {lines : List (List Char)} {text : List Char} (h : LaysOut lines text)
    (number : Nat) (rest : List (List Char)) :
    Assembly.idle.run number (lines ++ rest) =
      Assembly.runFrom (Assembly.afterText number text lines.reverse (markersOf text) [])
        (number + lines.length) rest := by
  obtain ⟨hparts, hmore, hlast⟩ := h
  have hrun := Assembly.run_layOut hparts hmore hlast
    (fun p hp => Assembly.step_idle_of_isPart hp number) rest
  rwa [List.reverse_nil, List.nil_append, List.append_nil,
    joinParts_eq fun part hpart => (hparts part hpart).notBlank] at hrun

/-- A header as it is laid out. Its parts are neither blank nor comments and have neither
line ends nor byte order marks in them, and the last one ends in no backslash. -/
structure Header where
  first : List Char
  more : List Continuation
  isPart : ∀ part ∈ partsOf first more, IsPart part
  isPlain : ∀ part ∈ partsOf first more, IsOnOneLine part ∧ byteOrderMark ∉ part
  isProper : ∀ c ∈ more, c.IsProper
  isWhole : ∀ part ∈ (partsOf first more).getLast?, (trimRight part).getLast? ≠ some '\\'

namespace Header

/-- The parts of a header. -/
def parts (h : Header) : List (List Char) :=
  partsOf h.first h.more

/-- The physical lines of a header. -/
def lines (h : Header) : List (List Char) :=
  layOut h.first h.more

theorem lines_ne_nil (h : Header) : h.lines ≠ [] := by
  rw [lines]
  cases h.more <;> exact List.cons_ne_nil _ _

/-- What a header says: its parts, trimmed, with a space between neighbours. -/
def text (h : Header) : List Char :=
  join [' '] (h.parts.map trim)

/-- The lines of a header lay its text out. -/
theorem laysOut (h : Header) : LaysOut h.lines h.text :=
  .intro h.isPart h.isProper h.isWhole

/-- Reading them comes to the text and to the heredocs it calls for. -/
theorem run_lines (h : Header) (number : Nat) (lines : List (List Char)) :
    Assembly.idle.run number (h.lines ++ lines) =
      Assembly.runFrom
        (Assembly.afterText number h.text h.lines.reverse (markersOf h.text) [])
        (number + h.lines.length) lines :=
  h.laysOut.run number lines

/-- The text of a header starts and ends as its first and its last part do, blanks aside. -/
theorem ends_of_text (h : Header) :
    h.text.head? = (trim h.first).head? ∧
      ∃ part ∈ h.parts.getLast?, h.text.getLast? = (trim part).getLast? := by
  have hends : ∀ part ∈ h.parts, ∃ c, (trim part).head? = some c := by
    intro part hpart
    obtain ⟨c, hc, -⟩ := (ends_of_trim (h.isPart part hpart).notBlank).1
    exact ⟨c, hc⟩
  constructor
  · obtain ⟨c, hc⟩ := hends h.first List.mem_cons_self
    rw [hc]
    exact head?_join_cons hc
  -- a blank part would leave its neighbour at the end, but no part is blank
  · obtain ⟨front, part, hparts⟩ : ∃ front part, h.parts = front ++ [part] :=
      ⟨_, _, (List.dropLast_concat_getLast (List.cons_ne_nil _ _)).symm⟩
    have hlast : part ∈ h.parts := by rw [hparts]; exact List.mem_concat_self
    have hne : trim part ≠ [] := by
      obtain ⟨c, hc⟩ := hends part hlast
      exact List.ne_nil_of_mem (List.mem_of_head? hc)
    refine ⟨part, by rw [hparts, List.getLast?_concat]; rfl, ?_⟩
    rw [text, hparts, List.map_append, List.map_singleton, getLast?_join_concat hne]

/-- The text of a header begins and ends with ink. -/
theorem trim_text (h : Header) : trim h.text = h.text := by
  obtain ⟨hhead, part, hpart, hlast⟩ := h.ends_of_text
  have hmem : part ∈ h.parts := List.mem_of_getLast? hpart
  apply trim_eq_self
  · rw [hhead]
    exact (ends_of_trim (h.isPart h.first List.mem_cons_self).notBlank).1
  · rw [hlast]
    exact (ends_of_trim (h.isPart part hmem).notBlank).2.1

/-- The text of a header is a part of a header itself. -/
theorem isPart_text (h : Header) : IsPart h.text := by
  have hfirst := h.isPart h.first List.mem_cons_self
  obtain ⟨c, hc, hblank⟩ := (ends_of_trim hfirst.notBlank).1
  have hcomment := hfirst.notComment
  rw [isCommentLine, ← h.ends_of_text.1] at hcomment
  rw [← h.ends_of_text.1] at hc
  constructor
  · obtain ⟨cs, hcs⟩ := List.head?_eq_some_iff.mp hc
    rw [hcs, allBlank, List.all_cons, hblank, Bool.false_and]
  · rw [isCommentLine, h.trim_text]
    exact hcomment

/-- The text of a header is on one line. -/
theorem isPlain_text (h : Header) : IsOnOneLine h.text ∧ byteOrderMark ∉ h.text := by
  have hchar : ∀ c ∈ h.text, c = ' ' ∨ ∃ part ∈ h.parts, c ∈ part := by
    intro c hc
    rcases mem_join hc with hsep | ⟨piece, hpiece, hc⟩
    · exact .inl (List.mem_singleton.mp hsep)
    · obtain ⟨part, hpart, rfl⟩ := List.mem_map.mp hpiece
      exact .inr ⟨part, hpart, (infix_trim part).mem hc⟩
  constructor
  · intro c hc
    rcases hchar c hc with rfl | ⟨part, hpart, hc⟩
    · decide
    · exact (h.isPlain part hpart).1 c hc
  · intro hmark
    rcases hchar _ hmark with hspace | ⟨part, hpart, hc⟩
    · exact absurd hspace (by decide)
    · exact (h.isPlain part hpart).2 hc

/-- The header on one line. -/
def oneLine (h : Header) : Header where
  first := h.text
  more := []
  isPart := List.forall_mem_singleton.mpr h.isPart_text
  isPlain := List.forall_mem_singleton.mpr h.isPlain_text
  isProper := fun _ hc => absurd hc List.not_mem_nil
  isWhole := by
    intro part hpart
    obtain rfl : h.text = part := Option.some.inj hpart
    obtain ⟨-, last, hlast, htext⟩ := h.ends_of_text
    have hmem : last ∈ h.parts := List.mem_of_getLast? hlast
    rw [← (ends_of_trim h.isPart_text.notBlank).2.2, h.trim_text, htext,
      (ends_of_trim (h.isPart last hmem).notBlank).2.2]
    exact h.isWhole last hlast

/-- Laying a header out on one line keeps its text. -/
theorem text_oneLine (h : Header) : h.oneLine.text = h.text :=
  h.trim_text

/-! ## Headers in a document -/

/-- Every line of a header is one line. -/
theorem isOnOneLine_layOut {part : List Char} {more : List Continuation}
    (hparts : ∀ p ∈ partsOf part more, IsOnOneLine p) (hmore : ∀ c ∈ more, c.IsProper) :
    ∀ raw ∈ layOut part more, IsOnOneLine raw := by
  induction more generalizing part with
  | nil => exact hparts
  | cons c more ih =>
    have hpart : IsOnOneLine part := hparts part List.mem_cons_self
    have hc : c.IsProper := hmore c List.mem_cons_self
    intro raw hraw
    rcases List.mem_cons.mp hraw with rfl | hraw
    · rw [isOnOneLine_append, isOnOneLine_cons]
      exact ⟨hpart, by decide, hc.blanks.2⟩
    · rcases List.mem_append.mp hraw with hcomment | hraw
      · exact (hc.comments raw hcomment).2
      · exact ih (fun p hp => hparts p (List.mem_cons_of_mem part hp))
          (fun d hd => hmore d (List.mem_cons_of_mem c hd)) raw hraw

/-- The first line of a header starts as its first part does. -/
theorem exists_layOut_cons {part : List Char} (hpart : part ≠ []) (more : List Continuation) :
    ∃ raw rest, layOut part more = raw :: rest ∧ raw.head? = part.head? := by
  cases more with
  | nil => exact ⟨part, [], rfl, rfl⟩
  | cons c more => exact ⟨_, _, rfl, List.head?_append_of_ne_nil _ hpart⟩

/-- The header as it is written. -/
def written (h : Header) : String :=
  String.ofList (join ['\n'] h.lines)

theorem lines_oneLine (h : Header) : h.oneLine.lines = [h.text] :=
  rfl

theorem written_oneLine (h : Header) : h.oneLine.written = String.ofList h.text := by
  rw [written, lines_oneLine, join]

/-- The physical lines of a document that starts with a header. -/
theorem physicalLines_written (h : Header) (rest : String) :
    physicalLines (h.written ++ "\n" ++ rest) =
      h.lines ++ splitAtChar '\n' (unifyNewlines rest.toList) := by
  have hends : ∀ raw ∈ h.lines, '\n' ∉ raw ∧ '\r' ∉ raw := fun raw hraw =>
    (isOnOneLine_layOut (fun p hp => (h.isPlain p hp).1) h.isProper raw hraw).not_mem
  obtain ⟨c, cs, hfirst⟩ : ∃ c cs, h.first = c :: cs := by
    apply List.exists_cons_of_ne_nil
    intro hnil
    have hblank := (h.isPart h.first List.mem_cons_self).notBlank
    rw [hnil] at hblank
    cases hblank
  obtain ⟨raw, more, hlines, hraw⟩ := exists_layOut_cons (hfirst ▸ List.cons_ne_nil c cs) h.more
  have hmark : (join ['\n'] h.lines).head? ≠ some byteOrderMark := by
    intro hhead
    rw [lines, hlines] at hhead
    have hmem := List.mem_of_head? (hraw ▸ head?_of_head?_join (by decide) hhead)
    exact (h.isPlain h.first List.mem_cons_self).2 hmem
  have hcr : '\r' ∉ join ['\n'] h.lines ++ ['\n'] := by
    intro hmem
    rcases List.mem_append.mp hmem with hmem | hmem
    · rcases mem_join hmem with hsep | ⟨raw, hraw, hmem⟩
      · exact absurd hsep (by decide)
      · exact (hends raw hraw).2 hmem
    · exact absurd hmem (by decide)
  simp only [physicalLines, written, String.toList_append, String.toList_ofList,
    String.reduceToList, List.append_assoc, List.singleton_append]
  rw [dropWhile_append_newline, dropWhile_byteOrderMark hmark, unifyNewlines_append_newline,
    unifyNewlines_eq_self hcr, List.append_assoc, List.singleton_append,
    splitAtChar_append_cons, splitAtChar_join (fun raw hraw => (hends raw hraw).1) h.lines_ne_nil]

end Header

/-! ## Documents that start with a header -/

/-- The entries of lines that are read with nothing open, the first line having the given
number. -/
def entriesFrom (number : Nat) (lines : List (List Char)) : Except ParseError (List Positioned) :=
  (Assembly.idle.run number lines).mapM fun r => r.bind LogicalLine.positioned

/-- The entries of lines further down are the same entries, further down. -/
theorem entriesFrom_shift (k number : Nat) (lines : List (List Char)) :
    entriesFrom (number + k) lines =
      shiftResult (fun k => List.map (Positioned.shift k)) k (entriesFrom number lines) := by
  have hrun : Assembly.idle.run (number + k) lines =
      (Assembly.idle.run number lines).map (shiftResult LogicalLine.shift k) :=
    Assembly.run_shift k .idle number lines
  rw [entriesFrom, hrun, mapM_positioned_shift, ← entriesFrom]

/-- The error, `k` lines further down if it is below line `n`. -/
def ParseError.shiftBelow (n k : Nat) : ParseError → ParseError
  | .malformed fault line column => .malformed fault (if n < line then line + k else line) column
  | .numeral error => .numeral error

/-- An error at a line itself is not below it. -/
theorem shiftBelow_atLine (n k : Nat) (e : InstructionError) :
    (e.atLine n).shiftBelow n k = e.atLine n := by
  cases e with
  | fault f column => simp [InstructionError.atLine, ParseError.shiftBelow]
  | numeral error => rfl

/-- An error in lines that are all below line `n`. -/
theorem shiftBelow_of_entriesFrom {n k number : Nat} {lines : List (List Char)} {e : ParseError}
    (hnumber : n < number) (h : entriesFrom number lines = .error e) :
    e.shiftBelow n k = e.shift k := by
  have hshift := entriesFrom_shift number 0 lines
  rw [Nat.zero_add, h] at hshift
  cases hzero : entriesFrom 0 lines with
  | ok entries => rw [hzero] at hshift; cases hshift
  | error e₀ =>
    rw [hzero, shiftResult, Except.error.injEq] at hshift
    subst hshift
    cases e₀ with
    | malformed fault line column =>
      have hline : n < line + number := by omega
      simp only [ParseError.shift, ParseError.shiftBelow, if_pos hline]
    | numeral error => rfl

namespace Header

/-- A header has lines, and more lines behind it go behind what is written. -/
theorem exists_written_append (tail : List (List Char)) :
    ∃ ending, ∀ h : Header,
      String.ofList (join ['\n'] (h.lines ++ tail)) = h.written ++ ending := by
  cases tail with
  | nil =>
    refine ⟨"", fun h => ?_⟩
    rw [List.append_nil, String.append_empty, written]
  | cons raw tail =>
    refine ⟨String.ofList ('\n' :: join ['\n'] (raw :: tail)), fun h => ?_⟩
    rw [join_append ['\n'] h.lines_ne_nil (List.cons_ne_nil raw tail), written, List.append_assoc,
      String.ofList_append]
    rfl

/-- What a document with a header in front reads as, for all layouts of the header: its
instruction, and then what stands below. -/
theorem parse_written_cases (text : List Char) (rest : String) :
    (∃ (instruction : Except InstructionError Instruction) (ending : String) (height : Nat)
      (back : List (List Char)), ∀ h : Header, h.text = text →
      parse (h.written ++ "\n" ++ rest) =
        match instruction with
        | .ok i => (entriesFrom (1 + h.lines.length + height) back).map
            (⟨i, 1, h.written ++ ending⟩ :: ·)
        | .error e => .error (e.atLine 1)) ∨
    ∃ word, ∀ h : Header, h.text = text →
      parse (h.written ++ "\n" ++ rest) =
        .error (.malformed (.unterminatedHeredoc word) 1 none) := by
  have hparse : ∀ h : Header, h.text = text → parse (h.written ++ "\n" ++ rest) =
      (Assembly.runFrom (Assembly.afterText 1 text h.lines.reverse (markersOf text) [])
        (1 + h.lines.length) (splitAtChar '\n' (unifyNewlines rest.toList))).mapM
          fun r => r.bind LogicalLine.positioned := by
    rintro h rfl
    rw [parse, logicalLines, h.physicalLines_written, h.run_lines]
  rcases Assembly.runFrom_afterText text (markersOf text)
    (splitAtChar '\n' (unifyNewlines rest.toList)) with ⟨bodies, tail, back, -, hrun⟩ | ⟨word, hrun⟩
  · obtain ⟨ending, hending⟩ := exists_written_append tail
    -- the instruction is one of the text and the bodies, the physical lines left aside
    refine .inl ⟨LogicalLine.instruction ⟨1, text, [], bodies⟩, ending, tail.length, back,
      fun h htext => ?_⟩
    have hinstruction : LogicalLine.instruction ⟨1, text, h.lines ++ tail, bodies⟩ =
        LogicalLine.instruction ⟨1, text, [], bodies⟩ := rfl
    rw [hparse h htext, hrun, List.reverse_reverse, List.mapM_cons, Except.bind,
      LogicalLine.positioned, hinstruction, ← entriesFrom]
    cases LogicalLine.instruction ⟨1, text, [], bodies⟩ with
    | error e => rfl
    | ok i =>
      rw [LogicalLine.source, hending h]
      cases entriesFrom (1 + h.lines.length + tail.length) back <;> rfl
  · refine .inr ⟨word, fun h htext => ?_⟩
    rw [hparse h htext, hrun]
    rfl

end Header

/-- How the reading of a document with a header on one line, and the reading of the same
document with the header laid out, agree. All that stands below the header stands as much
further down as the header is higher. -/
inductive Header.Agree (h : Header) :
    Except ParseError (List Positioned) → Except ParseError (List Positioned) → Prop
  /-- The instructions are the same, and the first has the lines of the header in its source. -/
  | ok (i : Instruction) (ending : String) (below : List Positioned) :
    h.Agree (.ok (⟨i, 1, String.ofList h.text ++ ending⟩ :: below))
      (.ok (⟨i, 1, h.written ++ ending⟩ :: below.map (Positioned.shift (h.lines.length - 1))))
  /-- The errors are the same. -/
  | error (e : ParseError) :
    h.Agree (.error e) (.error (e.shiftBelow 1 (h.lines.length - 1)))

/-- **A header reads as the one line that it stands for**, whatever follows it. -/
theorem parse_header (h : Header) (rest : String) :
    h.Agree (parse (String.ofList h.text ++ "\n" ++ rest)) (parse (h.written ++ "\n" ++ rest)) := by
  rcases Header.parse_written_cases h.text rest with
    ⟨instruction, ending, height, back, hparse⟩ | ⟨word, hparse⟩
  · rw [← h.written_oneLine, hparse h rfl, hparse h.oneLine h.text_oneLine, h.written_oneLine,
      h.lines_oneLine, List.length_singleton]
    cases instruction with
    | error e =>
      have hagree := Header.Agree.error (h := h) (e.atLine 1)
      rwa [shiftBelow_atLine] at hagree
    | ok i =>
      have hlines := List.length_pos_of_ne_nil h.lines_ne_nil
      -- what follows has moved down by the lines that the header has beyond its first
      have hnumber : 1 + h.lines.length + height = 1 + 1 + height + (h.lines.length - 1) := by
        omega
      dsimp only
      rw [hnumber, entriesFrom_shift (h.lines.length - 1) (1 + 1 + height)]
      cases hback : entriesFrom (1 + 1 + height) back with
      | ok below => exact .ok i ending below
      | error e =>
        have hagree := Header.Agree.error (h := h) e
        rwa [shiftBelow_of_entriesFrom (show 1 < 1 + 1 + height by omega) hback] at hagree
  · rw [← h.written_oneLine, hparse h rfl, hparse h.oneLine h.text_oneLine]
    exact .error (.malformed (.unterminatedHeredoc word) 1 none)

/-- A header over three lines, with a comment inside and a heredoc behind, in front of a
line that cannot be read. -/
theorem parse_header_of_three_lines :
    ∃ h : Header, h.written = "RUN a \\ \n # c\n\tb <<E" ∧
      parse (String.ofList h.text ++ "\n" ++ "x\nE\nUSERS b") =
        .error (.malformed (.unknownInstruction "USERS") 4 (some 1)) ∧
      parse (h.written ++ "\n" ++ "x\nE\nUSERS b") =
        .error (.malformed (.unknownInstruction "USERS") 6 (some 1)) := by
  have hparts : IsPart "RUN a ".toList ∧ IsPart "\tb <<E".toList :=
    ⟨⟨by decide, by decide⟩, by decide, by decide⟩
  have hplain : (IsOnOneLine "RUN a ".toList ∧ byteOrderMark ∉ "RUN a ".toList) ∧
      IsOnOneLine "\tb <<E".toList ∧ byteOrderMark ∉ "\tb <<E".toList := by decide
  have hcomment : isCommentLine " # c".toList = true ∧ IsOnOneLine " # c".toList := by decide
  obtain ⟨h, hlines, htext⟩ : ∃ h : Header,
      h.lines = ["RUN a \\ ".toList, " # c".toList, "\tb <<E".toList] ∧
        h.text = "RUN a b <<E".toList :=
    ⟨{  first := "RUN a ".toList
        more := [⟨[' '], [" # c".toList], "\tb <<E".toList⟩]
        isPart := List.forall_mem_cons.mpr ⟨hparts.1, List.forall_mem_singleton.mpr hparts.2⟩
        isPlain := List.forall_mem_cons.mpr ⟨hplain.1, List.forall_mem_singleton.mpr hplain.2⟩
        isProper := List.forall_mem_singleton.mpr
          ⟨by decide, List.forall_mem_singleton.mpr hcomment⟩
        isWhole := by
          intro part hpart
          obtain rfl : "\tb <<E".toList = part := Option.some.inj hpart
          decide }, rfl, rfl⟩
  have hflat : parse (String.ofList h.text ++ "\n" ++ "x\nE\nUSERS b") =
      .error (.malformed (.unknownInstruction "USERS") 4 (some 1)) := by
    rw [htext]
    decide +kernel
  have hheader := parse_header h "x\nE\nUSERS b"
  rw [hflat] at hheader
  refine ⟨h, by rw [Header.written, hlines]; decide, hflat, ?_⟩
  generalize parse (h.written ++ "\n" ++ "x\nE\nUSERS b") = laid at hheader
  cases hheader
  rw [hlines]
  rfl

end ContainerLint.Dockerfile
