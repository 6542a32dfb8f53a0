import OpenJax.Web.EventSource

set_option autoImplicit false

namespace OpenJax.Web

open Shared

def trimEnd (text : List Char) : List Char := (text.reverse.dropWhile isWhiteSpace).reverse

section Trimming

variable {text front : List Char} {c : Char}

theorem trimEnd_begins (text : List Char) : trimEnd text <+: text := by
  have suffix := List.dropWhile_suffix (l := text.reverse) isWhiteSpace
  rwa [← List.reverse_prefix, List.reverse_reverse] at suffix

theorem trimEnd_black (black : isWhiteSpace c = false) (text : List Char) :
    trimEnd (front ++ c :: text) = front ++ c :: trimEnd text := by
  have after : (c :: front.reverse).dropWhile isWhiteSpace = c :: front.reverse := by
    rw [List.dropWhile_cons_of_neg (by rw [black]; decide)]
  have split (left : List Char) : (left ++ c :: front.reverse).dropWhile isWhiteSpace =
      left.dropWhile isWhiteSpace ++ c :: front.reverse := by
    rw [List.dropWhile_append]
    split
    · next none => rw [after, List.isEmpty_iff.mp none, List.nil_append]
    · rfl
  rw [trimEnd, List.reverse_append, List.reverse_cons, List.append_assoc, List.singleton_append,
    split, List.reverse_append, List.reverse_cons, List.reverse_reverse, List.append_assoc]
  rfl

theorem trimEnd_white {white : List Char} (all : ∀ c ∈ white, isWhiteSpace c) :
    trimEnd (text ++ white) = trimEnd text := by
  rw [trimEnd, List.reverse_append, List.dropWhile_append_of_pos
    (fun c member => all c (List.mem_reverse.mp member))]
  rfl

theorem trimmedText_black (black : isWhiteSpace c = false) (text : List Char) :
    trimmedText (c :: text) = c :: trimEnd text := by
  have same : trimmedText (c :: text) = trimEnd ([] ++ c :: text) := by
    rw [trimmedText, List.dropWhile_cons_of_neg (by rw [black]; decide)]
    rfl
  rw [same, trimEnd_black black]
  rfl

end Trimming

theorem trimmedText_subset {text : List Char} : trimmedText text ⊆ text := fun _ member =>
  (List.dropWhile_suffix isWhiteSpace).subset ((trimEnd_begins _).subset member)

/-- What stands behind `data:` on the lines of a text. -/
def lineClaims (text : List Char) : List (List Char) :=
  claims "data:" ((splitBy '\n' text).map trimmedText)

def callFor (claimed : List (List Char)) : Option HandlerCall :=
  dataCall (claimed.getLast?.map trimmedText)

theorem claims_filled (lines : List (List Char)) :
    claims "data:" (lines.filter fun line => !line.isEmpty) = claims "data:" lines := by
  rw [claims, claims, List.filterMap_filter]
  congr 1
  funext line
  cases line with
  | nil => rfl
  | cons c rest => rfl

theorem processSseChunk_eq (chunk : List Char) :
    processSseChunk chunk = callFor (lineClaims (joinLineEnds chunk)) := by
  have data : (parseSseChunk chunk).bind SseChunk.data =
      (lineClaims (joinLineEnds chunk)).getLast?.map trimmedText := by
    rw [lineClaims, ← claims_filled, parseSseChunk]
    change (if (chunkLines chunk).isEmpty then none
      else some ((chunkLines chunk).foldl readLine ⟨none, none⟩)).bind SseChunk.data =
        (claims "data:" (chunkLines chunk)).getLast?.map trimmedText
    split
    · next none =>
      rw [List.isEmpty_iff.mp none]
      rfl
    · have reads (fields : SseChunk) (line : List Char) : (readLine fields line).data =
          ((stripPrefix? "data:" line).map fun claimed => some (trimmedText claimed)).getD
            fields.data := by
        cases shown : stripPrefix? "data:" line <;> simp [readLine, shown]
      rw [Option.bind_some, foldl_claims reads]
      cases (claims "data:" (chunkLines chunk)).getLast? <;> rfl
  rw [processSseChunk, callFor, data]

def handlerCallsOf (text : List Char) : List HandlerCall :=
  (splitBlank (joinLineEnds text)).filterMap processSseChunk

theorem processSseChunk_blank {chunk : List Char} (blank : trimmedText chunk = []) :
    processSseChunk chunk = none := by
  have lines : chunkLines chunk = [] := by
    refine List.filter_eq_nil_iff.mpr fun line member filled => ?_
    obtain ⟨segment, inside, rfl⟩ := List.mem_map.mp member
    obtain ⟨c, trimmed, black⟩ := black_of_trimmedText (by
      simpa using filled)
    have among : c ∈ trimmedText chunk := by
      apply mem_trimmedText black
      exact mem_joinLineEnds (mem_of_mem_splitBy inside (trimmedText_subset trimmed))
    rw [blank] at among
    cases among
  rw [processSseChunk, parseSseChunk, lines]
  rfl

theorem callsOf_eq (text : List Char) :
    (splitSseBufferAtStreamEnd text).filterMap processSseChunk = handlerCallsOf text := by
  have inked := splitBlank_ne_nil (joinLineEnds text)
  have whole : (splitSseBuffer text).chunks ++ [(splitSseBuffer text).remainder] =
      splitBlank (joinLineEnds text) := by
    simp only [splitSseBuffer]
    rw [List.getLastD_eq_getLast?, List.getLast?_eq_some_getLast inked, Option.getD_some,
      List.dropLast_append_getLast]
  rw [handlerCallsOf, ← whole, splitSseBufferAtStreamEnd]
  split
  · next blank =>
    rw [List.filterMap_append, List.filterMap_cons,
      processSseChunk_blank (List.isEmpty_iff.mp blank)]
    exact (List.append_nil _).symm
  · rfl

structure Written (line : List Char) : Prop where
  starts : ∃ c rest, line = c :: rest ∧ isWhiteSpace c = false
  noReturn : '\r' ∉ line
  noEnd : '\n' ∉ line

def Other (line : List Char) : Prop := ∃ c rest, line = c :: rest ∧ isWhiteSpace c = false ∧ c ≠ 'd'

section Lines

variable {line text part mark : List Char}

theorem lineClaims_line (single : '\n' ∉ line) (text : List Char) :
    lineClaims (line ++ '\n' :: text) = claims "data:" [trimmedText line] ++ lineClaims text := by
  rw [lineClaims, splitBy_append, splitBy_plain single, List.map_append, claims_append]
  rfl

theorem lineClaims_last (single : '\n' ∉ line) :
    lineClaims line = claims "data:" [trimmedText line] := by
  rw [lineClaims, splitBy_plain single]
  rfl

/-- What a cut can leave behind a line: nothing, half a line end or half a character. -/
def cutMarks : List (List Char) := [[], ['\r'], ['\uFFFD']]

theorem claims_head {c : Char} (other : c ≠ 'd') (rest : List Char) :
    claims "data:" [c :: rest] = [] := by
  have shape : "data:".toList = 'd' :: "ata:".toList := rfl
  simp [claims, stripPrefix?, shape, Ne.symm other]

theorem Other.claims_eq (other : Other line) (inside : part <+: line) (marked : mark ∈ cutMarks) :
    claims "data:" [trimmedText (part ++ mark)] = [] := by
  obtain ⟨c, rest, rfl, black, noData⟩ := other
  cases part with
  | nil =>
    rw [List.nil_append]
    rcases List.mem_cons.mp marked with rfl | marked
    · rfl
    rcases List.mem_cons.mp marked with rfl | marked
    · rfl
    · rw [List.mem_singleton.mp marked]
      rfl
  | cons d others =>
    obtain ⟨rfl, -⟩ := List.cons_prefix_cons.mp inside
    rw [List.cons_append, trimmedText_black black]
    exact claims_head noData _

theorem Written.trimmed_return (written : Written line) :
    trimmedText (line ++ ['\r']) = trimmedText line := by
  obtain ⟨c, rest, rfl, black⟩ := written.starts
  have white : ∀ c ∈ ['\r'], isWhiteSpace c := List.forall_mem_singleton.mpr rfl
  rw [List.cons_append, trimmedText_black black, trimmedText_black black, trimEnd_white white]

theorem Written.head (written : Written line) (behind : List Char) :
    (line ++ behind).head? ≠ some '\n' := by
  obtain ⟨c, rest, rfl, black⟩ := written.starts
  rintro same
  cases same
  exact written.noEnd List.mem_cons_self

end Lines

structure WrittenFrame (front : List (List Char)) (last : List Char) : Prop where
  others : ∀ line ∈ front, Written line ∧ Other line
  last : Written last

def plainBody (front : List (List Char)) (last : List Char) : List Char :=
  front.flatMap (· ++ ['\n']) ++ last

section Frames

variable {front : List (List Char)} {last line : List Char} {crlf : Bool}

theorem WrittenFrame.later (written : WrittenFrame (line :: front) last) :
    WrittenFrame front last :=
  ⟨fun line member => written.others line (List.mem_cons_of_mem _ member), written.last⟩

theorem WrittenFrame.head (written : WrittenFrame front last) (behind : List Char) :
    (plainBody front last ++ behind).head? ≠ some '\n' := by
  cases front with
  | nil => exact written.last.head behind
  | cons line front =>
    have first := (written.others line List.mem_cons_self).1
    rw [plainBody, List.flatMap_cons, List.append_assoc, List.append_assoc, List.append_assoc]
    exact first.head _

theorem WrittenFrame.unbroken (written : WrittenFrame front last) :
    Unbroken (plainBody front last ++ ['\n']) := by
  induction front with
  | nil => exact unbroken_line written.last.noEnd nofun List.IsChain.nil
  | cons line front ih =>
    have first := (written.others line List.mem_cons_self).1
    rw [plainBody, List.flatMap_cons, List.append_assoc, List.append_assoc, List.append_assoc]
    exact unbroken_line first.noEnd (List.append_assoc _ _ _ ▸ written.later.head _)
      (List.append_assoc _ _ _ ▸ ih written.later)

theorem WrittenFrame.lineClaims_eq (written : WrittenFrame front last) :
    lineClaims (plainBody front last) = claims "data:" [trimmedText last] := by
  induction front with
  | nil => exact lineClaims_last written.last.noEnd
  | cons line front ih =>
    obtain ⟨first, other⟩ := written.others line List.mem_cons_self
    have none : claims "data:" [trimmedText (line ++ [])] = [] :=
      other.claims_eq List.prefix_rfl (by decide)
    rw [List.append_nil] at none
    rw [plainBody, List.flatMap_cons, List.append_assoc, List.append_assoc,
      List.singleton_append, lineClaims_line first.noEnd, none, List.nil_append]
    exact ih written.later

theorem joinLineEnds_end (crlf : Bool) (text : List Char) :
    joinLineEnds (SentFrame.lineEnd crlf ++ text) = '\n' :: joinLineEnds text := by
  cases crlf with
  | false => exact joinLineEnds_head (by decide) text
  | true => rfl

theorem joinLineEnds_line (plain : '\r' ∉ line) (crlf : Bool) (text : List Char) :
    joinLineEnds (line ++ (SentFrame.lineEnd crlf ++ text)) = line ++ '\n' :: joinLineEnds text := by
  rw [joinLineEnds_plain plain, joinLineEnds_end]

theorem WrittenFrame.joinLineEnds_eq (written : WrittenFrame front last) (crlf : Bool)
    (text : List Char) :
    joinLineEnds (front.flatMap (· ++ SentFrame.lineEnd crlf) ++ last ++
      (SentFrame.lineEnd crlf ++ SentFrame.lineEnd crlf) ++ text) =
        plainBody front last ++ '\n' :: '\n' :: joinLineEnds text := by
  induction front with
  | nil =>
    rw [List.flatMap_nil, List.nil_append, List.append_assoc, List.append_assoc,
      joinLineEnds_line written.last.noReturn, joinLineEnds_end]
    rfl
  | cons line front ih =>
    have first := (written.others line List.mem_cons_self).1
    have later := ih written.later
    simp only [plainBody, List.flatMap_cons, List.append_assoc, List.singleton_append] at later ⊢
    rw [joinLineEnds_line first.noReturn, later]
    rfl

theorem WrittenFrame.callsOf_eq (written : WrittenFrame front last) (crlf : Bool)
    (text : List Char) :
    handlerCallsOf (front.flatMap (· ++ SentFrame.lineEnd crlf) ++ last ++
      (SentFrame.lineEnd crlf ++ SentFrame.lineEnd crlf) ++ text) =
        (callFor (claims "data:" [trimmedText last])).toList ++ handlerCallsOf text := by
  have plain : '\r' ∉ plainBody front last := by
    intro member
    rcases List.mem_append.mp member with inside | inside
    · obtain ⟨line, among, own⟩ := List.mem_flatMap.mp inside
      rcases List.mem_append.mp own with own | ended
      · exact (written.others line among).1.noReturn own
      · exact absurd (List.mem_singleton.mp ended) (by decide)
    · exact written.last.noReturn inside
  have own : joinLineEnds (plainBody front last) = plainBody front last := by
    have same := joinLineEnds_plain plain []
    rwa [List.append_nil, joinLineEnds, List.append_nil] at same
  have call : processSseChunk (plainBody front last) =
      callFor (claims "data:" [trimmedText last]) := by
    rw [processSseChunk_eq, own, written.lineClaims_eq]
  rw [handlerCallsOf, written.joinLineEnds_eq, splitBlank_ended written.unbroken,
    List.filterMap_cons, call]
  cases callFor (claims "data:" [trimmedText last]) <;> rfl

/-- What the end of the stream leaves behind what has come: nothing, or the sign for a character
that is cut. -/
def CutMark (mark after : List Char) : Prop :=
  mark = [] ∨ mark = ['\uFFFD'] ∧ ∃ c rest, after = c :: rest ∧ 0x80 ≤ c.toNat

theorem CutMark.none {c : Char} {mark rest : List Char} (cut : CutMark mark (c :: rest))
    (ascii : c.toNat < 0x80) : mark = [] := by
  rcases cut with none | ⟨-, d, others, same, wide⟩
  · exact none
  · obtain ⟨rfl, -⟩ := List.cons.inj same
    omega

/-- What the client makes of a part of a frame: its last line is whole, or cut, or not there. -/
structure CutFrame (front : List (List Char)) (last part mark : List Char) (crlf : Bool)
    (text : List Char) : Prop where
  head : text.head? ≠ some '\n'
  unbroken : Unbroken text
  whole : front.flatMap (· ++ SentFrame.lineEnd crlf) ++ last <+: part →
    lineClaims text = claims "data:" [trimmedText last]
  cut : ¬front.flatMap (· ++ SentFrame.lineEnd crlf) ++ last <+: part →
    lineClaims text = [] ∨
      ∃ begun, begun <+: last ∧ begun ≠ last ∧
        lineClaims text = claims "data:" [trimmedText (begun ++ mark)]

theorem notMem_marked {c : Char} {mark part after : List Char} (cut : CutMark mark after)
    (plain : c ∉ part) (other : c ≠ '\uFFFD') : c ∉ part ++ mark := by
  intro member
  rcases List.mem_append.mp member with inside | inside
  · exact plain inside
  · rcases cut with rfl | ⟨rfl, -⟩
    · cases inside
    · exact other (List.mem_singleton.mp inside)

theorem CutMark.mem {mark after : List Char} (cut : CutMark mark after) : mark ∈ cutMarks := by
  rcases cut with rfl | ⟨rfl, -⟩ <;> decide

theorem joinLineEnds_own {text : List Char} (plain : '\r' ∉ text) : joinLineEnds text = text := by
  have same := joinLineEnds_plain plain []
  rwa [List.append_nil, joinLineEnds, List.append_nil] at same

theorem head_marked {mark part : List Char} (single : '\n' ∉ part ++ mark) : (part ++ mark).head? ≠ some '\n' := fun head =>
  single (List.mem_of_mem_head? head)

theorem cut_ends {ends after : List Char} (missing : after ≠ [])
    (whole : ends ++ after = SentFrame.lineEnd crlf ++ SentFrame.lineEnd crlf) :
    (∃ c rest, after = c :: rest ∧ c.toNat < 0x80) ∧
      joinLineEnds ends ∈ [[], ['\n'], ['\r'], ['\n', '\r']] := by
  cases crlf with
  | false =>
    change ends ++ after = ['\n', '\n'] at whole
    match ends with
    | [] =>
      rw [List.nil_append] at whole
      exact ⟨⟨'\n', ['\n'], whole, by decide⟩, by decide⟩
    | [_] =>
      obtain ⟨rfl, rfl⟩ := List.cons.inj whole
      exact ⟨⟨'\n', [], rfl, by decide⟩, by decide⟩
    | [_, _] => exact absurd (List.cons.inj (List.cons.inj whole).2).2 missing
    | _ :: _ :: _ :: _ => cases whole
  | true =>
    change ends ++ after = ['\r', '\n', '\r', '\n'] at whole
    match ends with
    | [] =>
      rw [List.nil_append] at whole
      exact ⟨⟨'\r', ['\n', '\r', '\n'], whole, by decide⟩, by decide⟩
    | [_] =>
      obtain ⟨rfl, rfl⟩ := List.cons.inj whole
      exact ⟨⟨'\n', ['\r', '\n'], rfl, by decide⟩, by decide⟩
    | [_, _] =>
      obtain ⟨rfl, rest⟩ := List.cons.inj whole
      obtain ⟨rfl, rfl⟩ := List.cons.inj rest
      exact ⟨⟨'\r', ['\n'], rfl, by decide⟩, by decide⟩
    | [_, _, _] =>
      simp only [List.cons_append, List.nil_append, List.cons.injEq] at whole
      obtain ⟨rfl, rfl, rfl, rfl⟩ := whole
      exact ⟨⟨'\n', [], rfl, by decide⟩, by decide⟩
    | [_, _, _, _] =>
      exact absurd (List.cons.inj (List.cons.inj (List.cons.inj (List.cons.inj whole).2).2).2).2
        missing
    | _ :: _ :: _ :: _ :: _ :: _ => cases whole

theorem Written.ended (written : Written last) {ends : List Char}
    (among : ends ∈ [[], ['\n'], ['\r'], ['\n', '\r']]) :
    Unbroken (last ++ ends) ∧ lineClaims (last ++ ends) = claims "data:" [trimmedText last] := by
  simp only [List.mem_cons, List.not_mem_nil, or_false] at among
  rcases among with rfl | rfl | rfl | rfl
  · rw [List.append_nil]
    exact ⟨unbroken_plain written.noEnd, lineClaims_last written.noEnd⟩
  · refine ⟨unbroken_line written.noEnd (by simp) List.IsChain.nil, ?_⟩
    rw [lineClaims_line written.noEnd]
    exact List.append_nil _
  · have single : '\n' ∉ last ++ ['\r'] := by simp [written.noEnd]
    refine ⟨unbroken_plain single, ?_⟩
    rw [lineClaims_last single, written.trimmed_return]
  · refine ⟨unbroken_line written.noEnd (by simp) (List.isChain_singleton _), ?_⟩
    rw [lineClaims_line written.noEnd]
    exact List.append_nil _

theorem cutFrame_last {part mark after : List Char} (written : Written last)
    (whole : part ++ after = last ++ (SentFrame.lineEnd crlf ++ SentFrame.lineEnd crlf))
    (missing : after ≠ []) (cut : CutMark mark after) :
    CutFrame [] last part mark crlf (joinLineEnds (part ++ mark)) := by
  by_cases inside : last <+: part
  · obtain ⟨ends, rfl⟩ := inside
    rw [List.append_assoc] at whole
    obtain ⟨⟨c, rest, rfl, ascii⟩, among⟩ := cut_ends missing (List.append_cancel_left whole)
    obtain ⟨unbroken, claimed⟩ := written.ended among
    rw [cut.none ascii, List.append_nil, joinLineEnds_plain written.noReturn]
    exact ⟨written.head _, unbroken, fun _ => claimed, fun absent =>
      absurd (List.prefix_append last ends) absent⟩
  · have part' : part <+: last := by
      rcases List.prefix_or_prefix_of_prefix (List.prefix_append part after)
        (whole ▸ List.prefix_append last _) with within | within
      · exact within
      · exact absurd within inside
    have noReturn := notMem_marked cut (fun member => written.noReturn (part'.subset member)) (by decide)
    have noEnd := notMem_marked cut (fun member => written.noEnd (part'.subset member)) (by decide)
    rw [joinLineEnds_own noReturn]
    refine ⟨head_marked noEnd, unbroken_plain noEnd, fun among => absurd among inside, fun _ =>
      .inr ⟨part, part', ?_, lineClaims_last noEnd⟩⟩
    rintro rfl
    exact inside List.prefix_rfl

theorem cut_line {part after rest : List Char}
    (whole : part ++ after = line ++ (SentFrame.lineEnd crlf ++ rest))
    (missing : ¬line ++ SentFrame.lineEnd crlf <+: part) :
    part <+: line ∨ part = line ++ ['\r'] ∧ ∃ others, after = '\n' :: others := by
  rcases List.prefix_or_prefix_of_prefix (List.prefix_append part after)
    (whole ▸ List.prefix_append line _) with inside | ⟨ends, rfl⟩
  · exact .inl inside
  rw [List.append_assoc] at whole
  rw [List.prefix_append_right_inj] at missing
  have ended := List.append_cancel_left whole
  match ends with
  | [] =>
    rw [List.append_nil]
    exact .inl List.prefix_rfl
  | c :: others =>
    cases crlf with
    | false =>
      obtain ⟨rfl, -⟩ := List.cons.inj ended
      exact absurd (List.prefix_append ['\n'] others) missing
    | true =>
      obtain ⟨rfl, fed⟩ := List.cons.inj ended
      cases others with
      | nil => exact .inr ⟨rfl, rest, fed⟩
      | cons d others =>
        obtain ⟨rfl, -⟩ := List.cons.inj fed
        exact absurd (List.prefix_append ['\r', '\n'] others) missing

theorem cutFrame {part mark after : List Char} (written : WrittenFrame front last)
    (whole : part ++ after = front.flatMap (· ++ SentFrame.lineEnd crlf) ++
      (last ++ (SentFrame.lineEnd crlf ++ SentFrame.lineEnd crlf)))
    (missing : after ≠ []) (cut : CutMark mark after) :
    CutFrame front last part mark crlf (joinLineEnds (part ++ mark)) := by
  induction front generalizing part with
  | nil => exact cutFrame_last written.last whole missing cut
  | cons line front ih =>
    obtain ⟨first, other⟩ := written.others line List.mem_cons_self
    rw [List.flatMap_cons, List.append_assoc] at whole
    by_cases inside : line ++ SentFrame.lineEnd crlf <+: part
    · obtain ⟨behind, rfl⟩ := inside
      rw [List.append_assoc] at whole
      have later := ih written.later (List.append_cancel_left whole)
      rw [List.append_assoc, List.append_assoc, List.append_assoc, joinLineEnds_line first.noReturn]
      have none : claims "data:" [trimmedText (line ++ [])] = [] :=
        other.claims_eq List.prefix_rfl (by decide)
      rw [List.append_nil] at none
      have beginning : (line :: front).flatMap (· ++ SentFrame.lineEnd crlf) ++ last <+:
          line ++ (SentFrame.lineEnd crlf ++ behind) ↔
            front.flatMap (· ++ SentFrame.lineEnd crlf) ++ last <+: behind := by
        rw [List.flatMap_cons, List.append_assoc, ← List.append_assoc line,
          List.prefix_append_right_inj]
      constructor
      · exact first.head _
      · exact unbroken_line first.noEnd later.head later.unbroken
      · intro among
        rw [lineClaims_line first.noEnd, none, List.nil_append]
        exact later.whole (beginning.mp (List.append_assoc _ _ _ ▸ among))
      · intro absent
        rw [lineClaims_line first.noEnd, none, List.nil_append]
        exact later.cut fun among => absent (List.append_assoc _ _ _ ▸ beginning.mpr among)
    · have short : ¬(line :: front).flatMap (· ++ SentFrame.lineEnd crlf) ++ last <+: part := by
        intro among
        refine inside (List.IsPrefix.trans ?_ among)
        rw [List.flatMap_cons, List.append_assoc]
        exact List.prefix_append _ _
      rcases cut_line (whole.trans (List.append_assoc _ _ _)) inside with begun | ⟨rfl, others, rfl⟩
      · have noReturn :=
          notMem_marked cut (fun member => first.noReturn (begun.subset member)) (by decide)
        have noEnd := notMem_marked cut (fun member => first.noEnd (begun.subset member)) (by decide)
        rw [joinLineEnds_own noReturn]
        refine ⟨head_marked noEnd, unbroken_plain noEnd, fun among => absurd among short,
          fun _ => .inl ?_⟩
        rw [lineClaims_last noEnd, other.claims_eq begun cut.mem]
      · have single : '\n' ∉ line ++ ['\r'] := by simp [first.noEnd]
        rw [cut.none (by decide), List.append_nil, joinLineEnds_plain first.noReturn]
        refine ⟨first.head _, unbroken_plain single, fun among => absurd among short, fun _ => .inl ?_⟩
        rw [show joinLineEnds ['\r'] = ['\r'] from rfl, lineClaims_last single,
          other.claims_eq List.prefix_rfl (by decide)]

end Frames

theorem ObjectText.shape (data : ObjectText) :
    ∃ inside, data.text = '\x7b' :: (inside ++ ['\x7d']) := by
  obtain ⟨rest, opened⟩ := List.head?_eq_some_iff.mp data.opens
  obtain ⟨front, closed⟩ := List.getLast?_eq_some_iff.mp data.closes
  cases front with
  | nil =>
    rw [closed] at opened
    cases opened
  | cons c inside =>
    rw [closed] at opened
    obtain ⟨rfl, -⟩ := List.cons.inj opened
    exact ⟨inside, closed⟩

theorem claims_data (value : List Char) :
    claims "data:" [trimmedText ("data:".toList ++ value)] = [trimEnd value] := by
  have trimmed : trimmedText ("data:".toList ++ value) = "data:".toList ++ trimEnd value := by
    have black := trimmedText_black (show isWhiteSpace 'd' = false by decide)
      ("ata:".toList ++ value)
    have ended : trimEnd ("ata".toList ++ ':' :: value) = "ata".toList ++ ':' :: trimEnd value :=
      trimEnd_black (by decide) value
    exact black.trans (congrArg ('d' :: ·) ended)
  rw [trimmed, claims_own]
  rfl

theorem trimmedText_space (text : List Char) : trimmedText (' ' :: text) = trimmedText text := rfl

theorem callFor_whole (data : ObjectText) :
    callFor (claims "data:" [trimmedText ("data: ".toList ++ data.text)]) =
      some (.onEvent (.object data.fields)) := by
  obtain ⟨inside, shape⟩ := data.shape
  have ended : trimEnd (' ' :: data.text) = ' ' :: data.text := by
    rw [shape]
    change trimEnd ((' ' :: '\x7b' :: inside) ++ ['\x7d']) = _
    exact trimEnd_black (by decide) []
  have value : trimmedText (' ' :: data.text) = data.text := by
    rw [trimmedText_space, shape, trimmedText_black (by decide)]
    exact congrArg _ (trimEnd_black (by decide) [])
  have claimed : claims "data:" [trimmedText ("data: ".toList ++ data.text)] =
      [' ' :: data.text] :=
    (claims_data (' ' :: data.text)).trans (congrArg (fun text => [text]) ended)
  have call : dataCall (some data.text) = some (.onEvent (.object data.fields)) := by
    rw [shape, dataCall, ← shape, data.parsed]
    nofun
  rw [claimed]
  exact (congrArg (fun text => dataCall (some text)) value).trans call

theorem dataCall_unread {data : List Char} (unread : JsonText.parse data = none) :
    (dataCall (some data)).bind HandlerCall.event = none := by
  cases data with
  | nil => rfl
  | cons c rest =>
    simp only [dataCall, unread]
    rfl

theorem begun_unread {data : ObjectText} {part mark after : List Char}
    (inside : '\x7b' :: part <+: data.text) (missing : '\x7b' :: part ≠ data.text)
    (cut : CutMark mark after) :
    JsonText.parse ('\x7b' :: trimEnd (trimEnd (part ++ mark))) = none := by
  obtain ⟨own, shape⟩ := data.shape
  rw [shape, List.cons_prefix_cons] at inside
  rcases cut with rfl | ⟨rfl, -⟩
  · rw [List.append_nil]
    have trimmed := (trimEnd_begins (trimEnd part)).trans (trimEnd_begins part)
    obtain ⟨behind, whole⟩ := trimmed.trans inside.2
    have more : behind ≠ [] := by
      rintro rfl
      have lengths := congrArg List.length whole
      rw [List.append_nil] at lengths
      have all := inside.2.eq_of_length (Nat.le_antisymm inside.2.length_le (lengths ▸ trimmed.length_le))
      exact missing (by rw [shape, all])
    have ends : behind.getLast? = some '\x7d' := by
      have last := congrArg List.getLast? whole
      rwa [List.getLast?_append_of_ne_nil _ more, List.getLast?_concat] at last
    have parsed := data.parsed
    rw [shape, ← whole] at parsed
    exact JsonText.parse_cut parsed ends (by decide)
  · have ended : trimEnd (part ++ ['\uFFFD']) = part ++ ['\uFFFD'] := trimEnd_black (by decide) []
    rw [ended, ended]
    exact JsonText.parse_broken (by decide) (by decide)

theorem claims_begun {begun mark after : List Char} (inside : begun <+: "data:".toList)
    (cut : CutMark mark after) (missing : begun ≠ "data:".toList) :
    claims "data:" [trimmedText (begun ++ mark)] = [] := by
  have parts : begun ∈ "data:".toList.inits := (List.mem_inits _ _).mpr inside
  have shown : "data:".toList.inits =
      [[], ['d'], ['d', 'a'], ['d', 'a', 't'], ['d', 'a', 't', 'a'], "data:".toList] := rfl
  rw [shown] at parts
  simp only [List.mem_cons, List.not_mem_nil, or_false] at parts
  have begins : ∀ part ∈ [[], ['d'], ['d', 'a'], ['d', 'a', 't'], ['d', 'a', 't', 'a']],
      ∀ mark ∈ cutMarks, claims "data:" [trimmedText (part ++ mark)] = [] := by decide
  apply begins begun _ mark cut.mem
  simp only [List.mem_cons, List.not_mem_nil, or_false]
  rcases parts with one | one | one | one | one | whole
  · exact .inl one
  · exact .inr (.inl one)
  · exact .inr (.inr (.inl one))
  · exact .inr (.inr (.inr (.inl one)))
  · exact .inr (.inr (.inr (.inr one)))
  · exact absurd whole missing

theorem callFor_cut {data : ObjectText} {begun mark after : List Char}
    (inside : begun <+: "data: ".toList ++ data.text)
    (missing : begun ≠ "data: ".toList ++ data.text) (cut : CutMark mark after) :
    (callFor (claims "data:" [trimmedText (begun ++ mark)])).bind HandlerCall.event = none := by
  have line : "data: ".toList ++ data.text = "data:".toList ++ ' ' :: data.text := rfl
  rw [line] at inside missing
  by_cases named : "data:".toList <+: begun
  · obtain ⟨value, rfl⟩ := named
    rw [List.prefix_append_right_inj] at inside
    rw [ne_eq, List.append_cancel_left_eq] at missing
    rw [List.append_assoc, claims_data]
    change (dataCall (some (trimmedText (trimEnd (value ++ mark))))).bind HandlerCall.event = none
    apply dataCall_unread
    match value with
    | [] => rcases cut with rfl | ⟨rfl, -⟩ <;> rfl
    | [c] =>
      obtain ⟨rfl, -⟩ := List.cons_prefix_cons.mp inside
      rcases cut with rfl | ⟨rfl, -⟩ <;> rfl
    | c :: d :: part =>
      obtain ⟨rfl, within⟩ := List.cons_prefix_cons.mp inside
      obtain ⟨own, shape⟩ := data.shape
      obtain rfl : d = '\x7b' := by
        rw [shape] at within
        exact (List.cons_prefix_cons.mp within).1
      have trimmed : trimmedText (trimEnd (' ' :: '\x7b' :: part ++ mark)) =
          '\x7b' :: trimEnd (trimEnd (part ++ mark)) := by
        rw [show ' ' :: '\x7b' :: part ++ mark = [' '] ++ '\x7b' :: (part ++ mark) from rfl,
          trimEnd_black (by decide), List.singleton_append, trimmedText_space,
          trimmedText_black (by decide)]
      rw [trimmed]
      exact begun_unread within (fun same => missing (congrArg _ same)) cut
  · have short : begun <+: "data:".toList := by
      rcases List.prefix_or_prefix_of_prefix inside (List.prefix_append _ _) with within | within
      · exact within
      · exact absurd within named
    rw [claims_begun short cut (fun same => named (same ▸ List.prefix_rfl))]
    rfl

section Stream

variable {sent : SentFrame} {text : List Char}

theorem inline_written {start : List Char} (text : Inline)
    (starts : ∃ c rest, start = c :: rest ∧ isWhiteSpace c = false)
    (plain : '\r' ∉ start ∧ '\n' ∉ start) : Written (start ++ text.1) := by
  obtain ⟨c, rest, rfl, black⟩ := starts
  refine ⟨⟨c, rest ++ text.1, rfl, black⟩, ?_, ?_⟩
  · simp only [List.mem_append, not_or]
    exact ⟨plain.1, text.2.1⟩
  · simp only [List.mem_append, not_or]
    exact ⟨plain.2, text.2.2⟩

theorem SseFrame.written (frame : SseFrame) : WrittenFrame frame.front frame.last := by
  cases frame with
  | event eventType eventSeq data =>
    refine ⟨fun line member => ?_, ?_⟩
    · rcases List.mem_cons.mp member with rfl | member
      · exact ⟨inline_written eventType ⟨_, _, rfl, by decide⟩ (by decide),
          ⟨_, _, rfl, by decide, by decide⟩⟩
      · rw [List.mem_singleton.mp member]
        exact ⟨inline_written eventSeq ⟨_, _, rfl, by decide⟩ (by decide),
          ⟨_, _, rfl, by decide, by decide⟩⟩
    · exact inline_written ⟨data.text, data.inline⟩ ⟨_, _, rfl, by decide⟩ (by decide)
  | comment text =>
    refine ⟨fun line member => (by cases member), ?_⟩
    exact inline_written text ⟨':', [], rfl, by decide⟩ (by decide)

theorem SseFrame.call_last (frame : SseFrame) :
    callFor (claims "data:" [trimmedText frame.last]) = frame.object.map .onEvent := by
  cases frame with
  | event eventType eventSeq data => exact callFor_whole data
  | comment text =>
    have none : claims "data:" [trimmedText ((':' :: text.1) ++ [])] = [] :=
      Other.claims_eq ⟨_, _, rfl, by decide, by decide⟩ List.prefix_rfl (by decide)
    rw [List.append_nil] at none
    rw [SseFrame.last, none]
    rfl

theorem SseFrame.call_cut (frame : SseFrame) {begun mark after : List Char}
    (inside : begun <+: frame.last) (missing : begun ≠ frame.last) (cut : CutMark mark after) :
    (callFor (claims "data:" [trimmedText (begun ++ mark)])).bind HandlerCall.event = none := by
  cases frame with
  | event eventType eventSeq data => exact callFor_cut inside missing cut
  | comment text =>
    rw [Other.claims_eq ⟨_, _, rfl, by decide, by decide⟩ inside cut.mem]
    rfl

theorem SentFrame.callsOf_eq (sent : SentFrame) (text : List Char) :
    handlerCallsOf (sent.text ++ text) =
      (sent.frame.object.map HandlerCall.onEvent).toList ++ handlerCallsOf text := by
  rw [← SseFrame.call_last]
  exact sent.frame.written.callsOf_eq sent.crlf text

theorem joinLineEnds_again {text : List Char} (single : SingleReturns text) :
    joinLineEnds (joinLineEnds text) = joinLineEnds text := by
  have same := joinLineEnds_pieces (by rwa [List.append_nil])
  rwa [List.append_nil, List.append_nil] at same

theorem SentFrame.callsOf_cut {part mark after : List Char} (whole : part ++ after = sent.text)
    (missing : after ≠ []) (cut : CutMark mark after) (single : SingleReturns (part ++ mark)) :
    (handlerCallsOf (part ++ mark)).filterMap HandlerCall.event =
      if sent.body <+: part then sent.frame.object.toList else [] := by
  have seen := cutFrame sent.frame.written (whole.trans (List.append_assoc _ _ _)) missing cut
  have calls : (handlerCallsOf (part ++ mark)).filterMap HandlerCall.event =
      ((callFor (lineClaims (joinLineEnds (part ++ mark)))).bind HandlerCall.event).toList := by
    rw [handlerCallsOf, splitBlank_whole seen.unbroken, List.filterMap_cons, processSseChunk_eq,
      joinLineEnds_again single]
    cases callFor (lineClaims (joinLineEnds (part ++ mark))) with
    | none => rfl
    | some call => cases call <;> rfl
  rw [calls]
  by_cases inside : sent.body <+: part
  · rw [if_pos inside, seen.whole inside, SseFrame.call_last]
    cases sent.frame.object <;> rfl
  · rw [if_neg inside]
    rcases seen.cut inside with none | ⟨begun, within, short, claimed⟩
    · rw [none]
      rfl
    · rw [claimed, sent.frame.call_cut within short cut]
      rfl

theorem singleReturns_line {line : List Char} (plain : '\r' ∉ line) (crlf : Bool)
    (single : SingleReturns text) :
    SingleReturns (line ++ (SentFrame.lineEnd crlf ++ text)) := by
  induction line with
  | nil =>
    have ended : SingleReturns ('\n' :: text) :=
      List.isChain_cons.mpr ⟨fun _ _ same => absurd same (by decide), single⟩
    cases crlf with
    | false => exact ended
    | true => exact List.isChain_cons_cons.mpr ⟨fun _ => by decide, ended⟩
  | cons c rest ih =>
    rw [List.mem_cons, not_or] at plain
    exact List.isChain_cons.mpr ⟨fun _ _ same => absurd same.symm plain.1, ih plain.2⟩

theorem singleReturns_lines {lines : List (List Char)} (plain : ∀ line ∈ lines, '\r' ∉ line)
    (crlf : Bool) (single : SingleReturns text) :
    SingleReturns (lines.flatMap (· ++ SentFrame.lineEnd crlf) ++ text) := by
  induction lines with
  | nil => exact single
  | cons line lines ih =>
    rw [List.flatMap_cons, List.append_assoc, List.append_assoc]
    exact singleReturns_line (plain line List.mem_cons_self) crlf
      (ih fun line member => plain line (List.mem_cons_of_mem _ member))

variable (frames : List SentFrame)

theorem singleReturns_stream : SingleReturns (streamText frames) := by
  induction frames with
  | nil => exact List.IsChain.nil
  | cons sent rest ih =>
    have written := sent.frame.written
    have closed := singleReturns_line List.not_mem_nil sent.crlf ih
    have last := singleReturns_line written.last.noReturn sent.crlf closed
    have whole := singleReturns_lines (fun line member => (written.others line member).1.noReturn)
      sent.crlf last
    simpa [streamText, SentFrame.text, SentFrame.body] using whole

theorem singleReturns_marked {part mark after : List Char} (single : SingleReturns (part ++ after))
    (cut : CutMark mark after) : SingleReturns (part ++ mark) := by
  rcases cut with rfl | ⟨rfl, -⟩
  · rw [List.append_nil]
    exact single.left_of_append
  · refine List.IsChain.append single.left_of_append (List.isChain_singleton _) ?_
    rintro _ - second marked -
    cases marked
    decide

theorem SentFrame.body_ne_nil (sent : SentFrame) : sent.body ≠ [] := by
  obtain ⟨c, rest, shape, -⟩ := sent.frame.written.last.starts
  simp [SentFrame.body, shape]

theorem arrived_none : arrived frames 0 = [] := by
  induction frames with
  | nil => rfl
  | cons sent rest ih =>
    have some : ¬(encoded sent.body).length ≤ 0 := by
      intro none
      have empty := List.length_eq_zero_iff.mp (Nat.le_zero.mp none)
      obtain ⟨c, others, shape⟩ := List.exists_cons_of_ne_nil sent.body_ne_nil
      rw [shape, encoded, List.flatMap_cons, List.append_eq_nil_iff] at empty
      exact String.utf8EncodeChar_ne_nil empty.1
    rw [arrived, if_neg some, Nat.zero_sub, ih]
    rfl

theorem encoded_append (first second : List Char) :
    encoded (first ++ second) = encoded first ++ encoded second := List.flatMap_append

theorem callsOf_stream {frames : List SentFrame} {before after mark : List Char} {part : Bytes}
    {size : Nat} (whole : streamText frames = before ++ after)
    (bytes : (encoded (before ++ after)).take size = encoded before ++ part)
    (short : CutShort part after) (cut : CutMark mark after) :
    (handlerCallsOf (before ++ mark)).filterMap HandlerCall.event = arrived frames size := by
  induction frames generalizing before size with
  | nil =>
    obtain ⟨rfl, rfl⟩ := List.append_eq_nil_iff.mp whole.symm
    rcases cut with rfl | ⟨-, c, rest, same, -⟩
    · rfl
    · cases same
  | cons sent rest ih =>
    have beginning : sent.text <+: before ++ after := whole ▸ List.prefix_append _ _
    by_cases fits : (encoded sent.text).length ≤ size
    · obtain ⟨behind, rfl⟩ := (fits_iff bytes short beginning).mp fits
      have others : streamText rest = behind ++ after := by
        rw [List.append_assoc] at whole
        exact List.append_cancel_left whole
      rw [List.append_assoc, encoded_append, List.take_append, List.take_of_length_le fits,
        encoded_append sent.text behind, List.append_assoc] at bytes
      have body : (encoded sent.body).length ≤ size := by
        rw [SentFrame.text, encoded_append, List.length_append] at fits
        omega
      rw [List.append_assoc, SentFrame.callsOf_eq, List.filterMap_append,
        ih others (List.append_cancel_left bytes), arrived, if_pos body]
      cases sent.frame.object <;> rfl
    · have absent := mt (fits_iff bytes short beginning).mpr fits
      have inside : before <+: sent.text := by
        rcases List.prefix_or_prefix_of_prefix (List.prefix_append before after) beginning with
          within | within
        · exact within
        · exact absurd within absent
      obtain ⟨missing, shape⟩ := inside
      have more : missing ≠ [] := by
        rintro rfl
        rw [List.append_nil] at shape
        exact absent (shape ▸ List.prefix_rfl)
      obtain ⟨c, others, rfl⟩ := List.exists_cons_of_ne_nil more
      have later : after = c :: (others ++ streamText rest) := by
        rw [streamText, List.flatMap_cons, ← shape, List.append_assoc] at whole
        exact (List.append_cancel_left whole).symm
      have own : CutMark mark (c :: others) := by
        rcases cut with none | ⟨marked, d, _, same, wide⟩
        · exact .inl none
        · rw [later] at same
          cases same
          exact .inr ⟨marked, _, _, rfl, wide⟩
      have single := singleReturns_marked (whole ▸ singleReturns_stream _) cut
      have body : sent.body <+: before ↔ (encoded sent.body).length ≤ size :=
        (fits_iff bytes short ((List.prefix_append _ _).trans beginning)).symm
      rw [SentFrame.callsOf_cut shape more own single, arrived,
        show size - (encoded sent.text).length = 0 by omega, arrived_none, List.append_nil]
      simp only [body]

theorem callsOf_whole :
    handlerCallsOf (streamText frames) =
      (frames.filterMap fun sent => sent.frame.object).map .onEvent := by
  induction frames with
  | nil => rfl
  | cons sent rest ih =>
    rw [streamText, List.flatMap_cons, SentFrame.callsOf_eq, ← streamText, ih, List.filterMap_cons]
    cases sent.frame.object <;> rfl

theorem streamText_head : (streamText frames).head? ≠ some '\uFEFF' := by
  cases frames with
  | nil => nofun
  | cons sent rest =>
    rcases sent with ⟨frame, crlf⟩
    cases frame with
    | event eventType eventSeq data => exact fun same => by cases same
    | comment text => exact fun same => by cases same

theorem streamEvents_eq {reads : List Bytes} {chars : List Char} {last : Bytes}
    (decoded : decodeBytes [] reads.flatten = (chars, last)) (plain : chars.head? ≠ some '\uFEFF')
    (single : SingleReturns (chars ++ TextDecoder.flush ⟨last, false⟩)) :
    streamEvents reads = handlerCallsOf (chars ++ TextDecoder.flush ⟨last, false⟩) := by
  rw [← Web.callsOf_eq]
  exact readEvents_eq decoded (fun _ => plain) single

/-- However the bytes of the frames are split, and wherever they end. -/
theorem streamEvents_delivers {frames : List SentFrame} {reads : List Bytes} {size : Nat}
    (came : reads.flatten = (encoded (streamText frames)).take size) :
    (streamEvents reads).filterMap HandlerCall.event = arrived frames size ∧
      (reads.flatten = encoded (streamText frames) →
        streamEvents reads = (frames.filterMap fun sent => sent.frame.object).map .onEvent) := by
  constructor
  · obtain ⟨before, after, part, whole, bytes, short⟩ := take_encoded (streamText frames) size
    have decoded : decodeBytes [] reads.flatten = (before, part) := by
      rw [came, bytes, decodeBytes_cutShort short]
    have cut : CutMark (TextDecoder.flush ⟨part, false⟩) after :=
      TextDecoder.flush_cutShort short
    have plain : before.head? ≠ some '\uFEFF' := by
      intro marked
      apply streamText_head frames
      rw [whole, List.head?_append, marked]
      rfl
    have single := singleReturns_marked (whole ▸ singleReturns_stream frames) cut
    rw [streamEvents_eq decoded plain single]
    exact callsOf_stream whole (whole ▸ bytes) short cut
  · intro all
    have decoded : decodeBytes [] reads.flatten = (streamText frames, []) := by
      rw [all, decodeBytes_encoded]
    have none : TextDecoder.flush ⟨[], false⟩ = [] := rfl
    have single : SingleReturns (streamText frames ++ TextDecoder.flush ⟨[], false⟩) := by
      rw [none, List.append_nil]
      exact singleReturns_stream frames
    rw [streamEvents_eq decoded (streamText_head frames) single, none, List.append_nil,
      callsOf_whole]

end Stream

def twoFrames : List SentFrame :=
  [⟨.comment ⟨[], by decide⟩, false⟩,
    ⟨.event ⟨['é'], by decide⟩ ⟨['1'], by decide⟩
      ⟨['\x7b', '\x7d'], [], by decide, rfl, rfl, rfl⟩, true⟩]

theorem streamEvents_delivers_twoFrames :
    (streamEvents [(encoded (streamText twoFrames)).take 11,
      ((encoded (streamText twoFrames)).drop 11).take 2,
      ((encoded (streamText twoFrames)).drop 13).take 16]).filterMap HandlerCall.event =
        [.object []] :=
  have came : [(encoded (streamText twoFrames)).take 11,
      ((encoded (streamText twoFrames)).drop 11).take 2,
      ((encoded (streamText twoFrames)).drop 13).take 16].flatten =
        (encoded (streamText twoFrames)).take 29 := by decide +kernel
  (streamEvents_delivers came).1.trans rfl

end OpenJax.Web
