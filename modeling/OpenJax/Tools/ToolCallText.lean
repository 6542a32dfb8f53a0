import OpenJax.Shared.Rows
import OpenJax.Shared.Text

set_option autoImplicit false

namespace OpenJax.Tools.TextCall

open Shared

structure ToolCall where
  name : String
  args : Table String String
  deriving DecidableEq

def black (c : Char) : Bool := !isWhitespace c

def inKey (c : Char) : Bool := c != '=' && black c

def skipSpaces (text : List Char) : List Char := trimStart text

def parseName (text : List Char) : Option (List Char × List Char) :=
  let start := skipSpaces text
  let name := start.takeWhile black
  if name = [] then none else some (name, start.dropWhile black)

def parseQuotedValue (quote : Char) : List Char → Option (List Char × List Char)
  | [] => none
  | ch :: rest =>
      if ch = '\\' then
        match rest with
        | [] => none
        | next :: after =>
            if next = quote ∨ next = '\\' then
              (parseQuotedValue quote after).map fun found => (next :: found.1, found.2)
            else
              (parseQuotedValue quote (next :: after)).map fun found => ('\\' :: found.1, found.2)
      else if ch = quote then some ([], rest)
      else (parseQuotedValue quote rest).map fun found => (ch :: found.1, found.2)
  termination_by text => text.length

def isQuote (c : Char) : Bool := c = '\'' || c = '"'

inductive ArgTurn where
  | ended
  | failed
  /-- A word without a value is passed over. -/
  | word (rest : List Char)
  | argument (key value : List Char) (rest : List Char)
  deriving DecidableEq

def parseValue (key text : List Char) : ArgTurn :=
  match skipSpaces text with
  | [] => .argument key [] []
  | first :: rest =>
      if isQuote first then
        match parseQuotedValue first rest with
        | none => .failed
        | some (value, after) => .argument key value after
      else
        .argument key ((first :: rest).takeWhile black) ((first :: rest).dropWhile black)

def argTurn (text : List Char) : ArgTurn :=
  let start := skipSpaces text
  if start = [] then .ended
  else
    let key := start.takeWhile inKey
    if key = [] then .failed
    else
      match skipSpaces (start.dropWhile inKey) with
      | [] => .word []
      | next :: rest =>
          if next = '=' then parseValue key rest else .word ((next :: rest).dropWhile black)

theorem length_skipSpaces (text : List Char) : (skipSpaces text).length ≤ text.length :=
  (List.dropWhile_sublist _).length_le

theorem length_dropWhile (test : Char → Bool) (text : List Char) :
    (text.dropWhile test).length ≤ text.length :=
  (List.dropWhile_sublist _).length_le

theorem pushed_rest {read : Option (List Char × List Char)} {first : Char}
    {value rest : List Char}
    (pushed : read.map (fun found => (first :: found.1, found.2)) = some (value, rest)) :
    ∃ inner, read = some (inner, rest) := by
  obtain ⟨found, inner, same⟩ := Option.map_eq_some_iff.mp pushed
  cases same
  exact ⟨found.1, inner⟩

theorem parseQuotedValue_shorter {quote : Char} {text value rest : List Char}
    (read : parseQuotedValue quote text = some (value, rest)) : rest.length < text.length := by
  fun_induction parseQuotedValue quote text generalizing value with
  | case1 => cases read
  | case2 => cases read
  | case3 next after escaped ih =>
    obtain ⟨inner, found⟩ := pushed_rest read
    have shorter := ih found
    simp only [List.length_cons]
    omega
  | case4 next after plain ih =>
    obtain ⟨inner, found⟩ := pushed_rest read
    have shorter := ih found
    simp only [List.length_cons] at shorter ⊢
    omega
  | case5 after =>
    cases read
    simp
  | case6 ch after slash plain ih =>
    obtain ⟨inner, found⟩ := pushed_rest read
    have shorter := ih found
    simp only [List.length_cons]
    omega

def ArgTurn.rest? : ArgTurn → Option (List Char)
  | .ended | .failed => none
  | .word rest | .argument _ _ rest => some rest

theorem parseValue_rest {key text rest : List Char}
    (goes : (parseValue key text).rest? = some rest) : rest.length ≤ text.length := by
  have skipped := length_skipSpaces text
  rw [parseValue] at goes
  split at goes
  · cases goes
    simp
  next first later start =>
    rw [start, List.length_cons] at skipped
    split at goes
    · split at goes
      · cases goes
      next value after read =>
        have shorter := parseQuotedValue_shorter read
        cases goes
        omega
    · have dropped := length_dropWhile black (first :: later)
      cases goes
      rw [List.length_cons] at dropped
      omega

theorem argTurn_shorter {text rest : List Char} (goes : (argTurn text).rest? = some rest) :
    rest.length < text.length := by
  have skipped := length_skipSpaces text
  simp only [argTurn] at goes
  split at goes
  · cases goes
  next filled =>
    split at goes
    · cases goes
    next named =>
      have read : ((skipSpaces text).dropWhile inKey).length < (skipSpaces text).length := by
        have parts := congrArg List.length
          (List.takeWhile_append_dropWhile (p := inKey) (l := skipSpaces text))
        have some := List.length_pos_iff.mpr named
        rw [List.length_append] at parts
        omega
      have again := length_skipSpaces ((skipSpaces text).dropWhile inKey)
      split at goes
      · cases goes
        simp only [List.length_nil]
        omega
      next next later start =>
        rw [start, List.length_cons] at again
        split at goes
        · have shorter := parseValue_rest goes
          omega
        · have dropped := length_dropWhile black (next :: later)
          cases goes
          rw [List.length_cons] at dropped
          omega

def parseArgs (text : List Char) (args : Table String String) : Option (Table String String) :=
  match turn : argTurn text with
  | .ended => some args
  | .failed => none
  | .word rest => parseArgs rest args
  | .argument key value rest =>
      parseArgs rest (args.insert (String.ofList key) (String.ofList value))
  termination_by text.length
  decreasing_by
    all_goals
      apply argTurn_shorter
      rw [turn]
      rfl

def parseToolCall (input : String) : Option ToolCall := do
  let trimmed := trimChars input.toList
  if !"tool:".toList.isPrefixOf trimmed then none
  else
    let rest := trimChars (trimmed.drop "tool:".length)
    if rest = [] then none
    else
      let (name, after) ← parseName rest
      let args ← parseArgs after ∅
      return ⟨String.ofList name, args⟩

example : (parseToolCall "tool:shell cmd='echo hi >/tmp/openjax-e2e.txt' require_escalated=true").map
    (fun call => (call.name, call.args.lookup "cmd", call.args.lookup "require_escalated")) =
      some ("shell", some "echo hi >/tmp/openjax-e2e.txt", some "true") := by decide +kernel

structure Spaces where
  chars : List Char
  spaces : ∀ c ∈ chars, isWhitespace c

structure Gap extends Spaces where
  filled : chars ≠ []

structure Name where
  chars : List Char
  filled : chars ≠ []
  single : ∀ c ∈ chars, black c

structure Word where
  chars : List Char
  filled : chars ≠ []
  single : ∀ c ∈ chars, inKey c

structure Quote where
  char : Char
  quotes : isQuote char

inductive Value where
  | quoted (quote : Quote) (text : List Char)
  | plain (first : Char) (rest : List Char) (bare : isQuote first = false)
      (single : ∀ c ∈ first :: rest, black c)

inductive Item where
  | word (word : Word)
  | argument (key : Word) (before after : Spaces) (value : Value)

def escaped (quote : Char) (text : List Char) : List Char :=
  text.flatMap fun c => if c = quote ∨ c = '\\' then ['\\', c] else [c]

def Value.read : Value → List Char
  | .quoted _ text => text
  | .plain first rest _ _ => first :: rest

def Value.text : Value → List Char
  | .quoted quote text => quote.char :: (escaped quote.char text ++ [quote.char])
  | .plain first rest _ _ => first :: rest

def Item.text : Item → List Char
  | .word alone => alone.chars
  | .argument key before after value =>
      key.chars ++ before.chars ++ '=' :: (after.chars ++ value.text)

def itemsText (items : List (Gap × Item)) : List Char :=
  items.flatMap fun item => item.1.chars ++ item.2.text

/-- A line that calls a tool, with white space wherever it may stand. -/
structure CallLine where
  lead : Spaces
  middle : Spaces
  name : Name
  items : List (Gap × Item)
  trail : Spaces

def CallLine.text (line : CallLine) : String :=
  String.ofList (line.lead.chars ++ ("tool:".toList ++ line.middle.chars ++ line.name.chars ++
    itemsText line.items) ++ line.trail.chars)

def givenArgs : List (Gap × Item) → Table String String → Table String String
  | [], args => args
  | (_, Item.word _) :: rest, args => givenArgs rest args
  | (_, .argument key _ _ value) :: rest, args =>
      givenArgs rest (args.insert (String.ofList key.chars) (String.ofList value.read))

def EvenWords (odd : Bool) : List (Gap × Item) → Prop
  | [] => True
  | (_, .word _) :: rest => EvenWords (!odd) rest
  | (_, .argument _ _ _ _) :: rest => odd = false ∧ EvenWords false rest

inductive Reaches : List Char → List Char → Prop
  | here (text : List Char) : Reaches text text
  | turn {text rest last : List Char} : (argTurn text).rest? = some rest → Reaches rest last →
      Reaches text last

def ReadsArgument (text : List Char) (key : Word) (before after : Spaces) (value : Value)
    (rest : List Char) : Prop :=
  ∃ reached, Reaches text reached ∧
    skipSpaces reached = (Item.argument key before after value).text ++ rest ∧
    argTurn reached = .argument key.chars value.read rest

structure KeepsArguments (line : CallLine) : Prop where
  parsed : parseToolCall line.text =
    some ⟨String.ofList line.name.chars, givenArgs line.items ∅⟩
  read : ∀ earlier gap key before after value later,
    line.items = earlier ++ (gap, .argument key before after value) :: later →
      ReadsArgument (itemsText line.items) key before after value (itemsText later)

section Turns

theorem skipSpaces_spaces (spaces : Spaces) (text : List Char) :
    skipSpaces (spaces.chars ++ text) = skipSpaces text :=
  List.dropWhile_append_of_pos spaces.spaces

theorem skipSpaces_black {c : Char} (single : black c) (rest : List Char) :
    skipSpaces (c :: rest) = c :: rest := by
  have stops : isWhitespace c = false := by simpa [black] using single
  simp [skipSpaces, trimStart, stops]

theorem black_of_inKey {c : Char} (key : inKey c) : black c := by
  simp only [inKey, Bool.and_eq_true] at key
  exact key.2

theorem skipSpaces_word (word : Word) (text : List Char) :
    skipSpaces (word.chars ++ text) = word.chars ++ text := by
  obtain ⟨chars, filled, single⟩ := word
  cases chars with
  | nil => exact absurd rfl filled
  | cons c rest => exact skipSpaces_black (black_of_inKey (single c (by simp))) _

theorem inKey_stops {c : Char} (space : isWhitespace c) : inKey c = false := by
  simp [inKey, black, space]

def Ends (text : List Char) : Prop := ∀ c, text.head? = some c → isWhitespace c

theorem itemsText_ends (items : List (Gap × Item)) : Ends (itemsText items) := by
  intro c first
  cases items with
  | nil => cases first
  | cons item rest =>
    obtain ⟨gap, item⟩ := item
    obtain ⟨⟨chars, spaces⟩, filled⟩ := gap
    cases chars with
    | nil => exact absurd rfl filled
    | cons space others =>
      cases first
      exact spaces c (by simp)

theorem span_ends {test : Char → Bool} {chars text : List Char} (all : ∀ c ∈ chars, test c)
    (stops : ∀ c, text.head? = some c → test c = false) :
    (chars ++ text).takeWhile test = chars ∧ (chars ++ text).dropWhile test = text := by
  rw [List.takeWhile_append_of_pos all, List.dropWhile_append_of_pos all]
  cases text with
  | nil => simp
  | cons c rest =>
    have stop := stops c rfl
    simp [stop]

theorem argTurn_word (gap : Spaces) (word : Word) {text : List Char} (ends : Ends text) {c : Char}
    {rest : List Char} (next : skipSpaces text = c :: rest) (other : c ≠ '=') :
    argTurn (gap.chars ++ (word.chars ++ text)) = .word ((c :: rest).dropWhile black) := by
  have span := span_ends word.single fun c first => inKey_stops (ends c first)
  have filled : word.chars ++ text ≠ [] := by
    simp [word.filled]
  simp only [argTurn, skipSpaces_spaces, skipSpaces_word, if_neg filled, span.1, span.2,
    if_neg word.filled, next, if_neg other]

theorem argTurn_lastWord (gap : Spaces) (word : Word) :
    argTurn (gap.chars ++ word.chars) = .word [] := by
  have stops : ∀ c, [].head? = some c → inKey c = false := by simp
  have span := span_ends word.single stops
  have none := skipSpaces_word word []
  rw [List.append_nil] at span none
  simp only [argTurn, skipSpaces_spaces, none, span.1, span.2, if_neg word.filled]
  rfl

theorem quote_black (quote : Quote) : black quote.char := by
  have quotes := quote.quotes
  simp only [isQuote, Bool.or_eq_true, decide_eq_true_eq] at quotes
  rcases quotes with same | same <;> rw [same] <;> decide

theorem parseQuotedValue_escaped (quote : Quote) (text rest : List Char) :
    parseQuotedValue quote.char (escaped quote.char text ++ quote.char :: rest) =
      some (text, rest) := by
  have mark : quote.char ≠ '\\' := by
    intro same
    have quotes := quote.quotes
    rw [same] at quotes
    revert quotes
    decide
  induction text with
  | nil =>
    rw [escaped, List.flatMap_nil, List.nil_append, parseQuotedValue.eq_def]
    simp [mark]
  | cons c text ih =>
    rw [escaped, List.flatMap_cons, ← escaped]
    by_cases special : c = quote.char ∨ c = '\\'
    · rw [if_pos special, parseQuotedValue.eq_def]
      simp [special, ih]
    · have plain := not_or.mp special
      rw [if_neg special, parseQuotedValue.eq_def]
      simp [plain, ih]

theorem parseValue_value (spaces : Spaces) (key : List Char) (value : Value) {rest : List Char}
    (ends : Ends rest) :
    parseValue key (spaces.chars ++ (value.text ++ rest)) = .argument key value.read rest := by
  have stops : ∀ c, rest.head? = some c → black c = false := by
    intro c first
    simp [black, ends c first]
  rw [parseValue, skipSpaces_spaces]
  cases value with
  | quoted quote text =>
    simp only [Value.text, List.cons_append, skipSpaces_black (quote_black quote), quote.quotes,
      if_true,
      List.append_assoc, List.nil_append, parseQuotedValue_escaped, Value.read]
  | plain first others bare single =>
    have span := span_ends single stops
    simp only [List.cons_append] at span
    simp only [Value.text, List.cons_append, skipSpaces_black (single first (by simp)), bare,
      Bool.false_eq_true, if_false, span.1, span.2, Value.read]

theorem argTurn_argument (gap : Spaces) (key : Word) (before after : Spaces) (value : Value)
    {rest : List Char} (ends : Ends rest) :
    argTurn (gap.chars ++ ((Item.argument key before after value).text ++ rest)) =
      .argument key.chars value.read rest := by
  have stops : ∀ c, (before.chars ++ '=' :: (after.chars ++ value.text ++ rest)).head? = some c →
      inKey c = false := by
    intro c first
    cases start : before.chars with
    | nil =>
      rw [start] at first
      cases first
      decide
    | cons space others =>
      rw [start] at first
      cases first
      exact inKey_stops (before.spaces c (by simp [start]))
  have span := span_ends key.single stops
  have equals : skipSpaces ('=' :: (after.chars ++ value.text ++ rest)) =
      '=' :: (after.chars ++ value.text ++ rest) := skipSpaces_black (by decide) _
  have filled : key.chars ++ (before.chars ++ '=' :: (after.chars ++ value.text ++ rest)) ≠ [] := by
    simp [key.filled]
  have joined : (Item.argument key before after value).text ++ rest =
      key.chars ++ (before.chars ++ '=' :: (after.chars ++ value.text ++ rest)) := by
    simp [Item.text]
  rw [joined]
  simp only [argTurn, skipSpaces_spaces, skipSpaces_word, if_neg filled, span.1, span.2,
    if_neg key.filled, equals, if_true]
  rw [List.append_assoc]
  exact parseValue_value after key.chars value ends

theorem itemsText_cons (gap : Gap) (item : Item) (rest : List (Gap × Item)) :
    itemsText ((gap, item) :: rest) = gap.chars ++ (item.text ++ itemsText rest) := by
  simp [itemsText]

theorem itemsText_append (earlier later : List (Gap × Item)) :
    itemsText (earlier ++ later) = itemsText earlier ++ itemsText later :=
  List.flatMap_append

theorem argTurn_arg (gap : Gap) (key : Word) (before after : Spaces) (value : Value)
    (rest : List (Gap × Item)) :
    argTurn (itemsText ((gap, .argument key before after value) :: rest)) =
      .argument key.chars value.read (itemsText rest) := by
  rw [itemsText_cons]
  exact argTurn_argument gap.toSpaces key before after value (itemsText_ends rest)

theorem argTurn_alone (gap : Gap) (word : Word) :
    argTurn (itemsText [(gap, .word word)]) = .word [] := by
  have text : itemsText [(gap, .word word)] = gap.chars ++ word.chars := by
    simp [itemsText, Item.text]
  rw [text]
  exact argTurn_lastWord gap.toSpaces word

theorem item_start (item : Item) (text : List Char) :
    ∃ c rest, item.text ++ text = c :: rest ∧ inKey c := by
  have start (word : Word) (more : List Char) : ∃ c rest, word.chars ++ more = c :: rest ∧ inKey c := by
    obtain ⟨chars, filled, single⟩ := word
    cases chars with
    | nil => exact absurd rfl filled
    | cons c rest => exact ⟨c, rest ++ more, rfl, single c (by simp)⟩
  cases item with
  | word word => exact start word text
  | argument key before after value =>
    rw [Item.text, List.append_assoc, List.append_assoc]
    exact start key _

variable (gap between : Gap)

theorem argTurn_wordThen (word : Word) (item : Item) (rest : List (Gap × Item)) :
    argTurn (itemsText ((gap, .word word) :: (between, item) :: rest)) =
      .word ((item.text ++ itemsText rest).dropWhile black) := by
  obtain ⟨c, others, text, key⟩ := item_start item (itemsText rest)
  have other : c ≠ '=' := by
    rintro rfl
    revert key
    decide
  have start : skipSpaces (itemsText ((between, item) :: rest)) = c :: others := by
    rw [itemsText_cons, skipSpaces_spaces, text, skipSpaces_black (black_of_inKey key)]
  rw [itemsText_cons, Item.text, argTurn_word gap.toSpaces word (itemsText_ends _) start other, text]

theorem argTurn_twoWords (word other : Word) (rest : List (Gap × Item)) :
    argTurn (itemsText ((gap, .word word) :: (between, .word other) :: rest)) =
      .word (itemsText rest) := by
  have stops : ∀ c, (itemsText rest).head? = some c → black c = false := by
    intro c first
    simp [black, itemsText_ends rest c first]
  rw [argTurn_wordThen, Item.text,
    (span_ends (fun c among => black_of_inKey (other.single c among)) stops).2]

theorem argTurn_wordArg (word : Word) (item : Item) (rest : List (Gap × Item)) :
    ∃ left, argTurn (itemsText ((gap, .word word) :: (between, item) :: rest)) = .word left ∧
      left.length < (item.text ++ itemsText rest).length := by
  obtain ⟨c, others, text, key⟩ := item_start item (itemsText rest)
  have dropped := length_dropWhile black others
  refine ⟨_, argTurn_wordThen gap between word item rest, ?_⟩
  rw [text, List.dropWhile_cons_of_pos (black_of_inKey key), List.length_cons]
  omega

theorem parseArgs_word {text rest : List Char} (turn : argTurn text = .word rest)
    (args : Table String String) : parseArgs text args = parseArgs rest args := by
  rw [parseArgs.eq_def]
  split <;> simp_all

theorem parseArgs_argument {text key value rest : List Char}
    (turn : argTurn text = .argument key value rest) (args : Table String String) :
    parseArgs text args =
      parseArgs rest (args.insert (String.ofList key) (String.ofList value)) := by
  rw [parseArgs.eq_def]
  split <;> simp_all

theorem reaches_shorter {text reached : List Char} (reaches : Reaches text reached) :
    reached.length ≤ text.length := by
  induction reaches with
  | here => exact Nat.le_refl _
  | turn goes _ ih =>
    have shorter := argTurn_shorter goes
    omega

end Turns

end OpenJax.Tools.TextCall
