import Mathlib.Logic.Relation
import Masquerade.NameService
import Masquerade.Proofs.Address
import Masquerade.Proofs.Text.Lines

/-!
# The first lines of the host's file

Which name server and which domain come of a file is settled by the first line that gives one.
Lines that give nothing, and lines behind one that has settled what they are about, may be put
into the file and taken out of it wherever they stand.
-/

set_option autoImplicit false

namespace Masquerade.NameService

open Text (AreLines IsTrimmed LeadsWith isBlank words trim)
open Address (IsDotted)

/-! ## Directives -/

inductive Directive
  | nameserver (address : Ipv4Address)
  | domain (name : String)
  | search (name : String)
  deriving DecidableEq, Repr

/-- The directive of a line.  A name server that is no short address is none. -/
def Directive.ofLine (line : List Char) : Option Directive :=
  match leadingWords line with
  | none => none
  | some (keyword, argument) =>
    if keyword = "nameserver".toList then (Address.ipv4? argument).map .nameserver
    else if keyword = "domain".toList then some (.domain (String.ofList argument))
    else if keyword = "search".toList then some (.search (String.ofList argument))
    else none

def Directive.nameserver? : Directive → Option Ipv4Address
  | .nameserver address => some address
  | _ => none

def Directive.domain? : Directive → Option String
  | .domain name => some name
  | _ => none

def Directive.search? : Directive → Option String
  | .search name => some name
  | _ => none

/-- The first name server; and the first domain or, in a file without one, the
first search entry. -/
def ofDirectives (directives : List Directive) : NameService where
  nameserver := directives.findSome? Directive.nameserver?
  domain := (directives.findSome? Directive.domain?).or (directives.findSome? Directive.search?)

theorem read_eq (found : Findings) (line : List Char) :
    found.read line =
      match Directive.ofLine line with
      | none => found
      | some directive =>
        ⟨found.nameserver.or directive.nameserver?, found.domain.or directive.domain?,
          found.search.or directive.search?⟩ := by
  obtain ⟨nameserver, domain, search⟩ := found
  unfold Findings.read Directive.ofLine
  cases leadingWords line with
  | none => rfl
  | some said =>
      obtain ⟨keyword, argument⟩ := said
      dsimp only
      by_cases server : keyword = "nameserver".toList
      · subst server
        cases nameserver <;> cases Address.ipv4? argument <;> simp [Directive.nameserver?,
          Directive.domain?, Directive.search?]
      by_cases zone : keyword = "domain".toList
      · subst zone
        cases domain <;> simp [Directive.nameserver?, Directive.domain?, Directive.search?]
      by_cases entry : keyword = "search".toList
      · subst entry
        cases search <;> simp [Directive.nameserver?, Directive.domain?, Directive.search?]
      · simp only [server, zone, entry, false_and, if_false]

/-- The induction is on the lines; what was found before them is general. -/
theorem foldl_read (lines : List (List Char)) : ∀ found : Findings,
    lines.foldl Findings.read found =
      let directives := lines.filterMap Directive.ofLine
      ⟨found.nameserver.or (directives.findSome? Directive.nameserver?),
        found.domain.or (directives.findSome? Directive.domain?),
        found.search.or (directives.findSome? Directive.search?)⟩ := by
  induction lines with
  | nil => simp
  | cons line rest ih =>
      intro found
      rw [List.foldl_cons, ih, read_eq]
      cases given : Directive.ofLine line with
      | none => rw [List.filterMap_cons_none given]
      | some directive =>
          rw [List.filterMap_cons_some given]
          simp only [List.findSome?_cons, Option.or_assoc]
          cases directive <;> simp [Directive.nameserver?, Directive.domain?, Directive.search?]

theorem parse_eq (text : String) :
    parse text = ofDirectives ((Text.lines text.toList).filterMap Directive.ofLine) := by
  simp only [parse, foldl_read, ofDirectives, Option.none_or]
  cases ((Text.lines text.toList).filterMap Directive.ofLine).findSome? Directive.domain? <;> rfl

/-! ## What a line says -/

def IsComment (line : List Char) : Prop :=
  ∃ core, IsTrimmed line core ∧ (core.head? = some '#' ∨ core.head? = some ';')

structure Says (line keyword argument : List Char) : Prop where
  noComment : ¬ IsComment line
  leads : ∃ behind rest, LeadsWith line keyword behind ∧ LeadsWith behind argument rest

/-- A name server is given by its address, a domain and an entry for the search by any word. -/
inductive Gives (line : List Char) : Directive → Prop
  | nameserver {argument : List Char} {address : Ipv4Address}
      (holds : Says line "nameserver".toList argument) (dotted : IsDotted argument address) :
      Gives line (.nameserver address)
  | domain {name : String} (holds : Says line "domain".toList name.toList) :
      Gives line (.domain name)
  | search {name : String} (holds : Says line "search".toList name.toList) :
      Gives line (.search name)

theorem isComment_iff {line : List Char} :
    IsComment line ↔ (trim line).head? = some '#' ∨ (trim line).head? = some ';' := by
  constructor
  · rintro ⟨core, trimmed, mark⟩
    rwa [Text.trim_eq_iff.mpr trimmed]
  · exact fun mark => ⟨trim line, Text.isTrimmed_trim line, mark⟩

theorem leadingWords_of_comment {line : List Char} (comment : IsComment line) :
    leadingWords line = none := by
  unfold leadingWords
  rcases isComment_iff.mp comment with mark | mark
  · obtain ⟨rest, content⟩ := List.head?_eq_some_iff.mp mark
    rw [content]
    rfl
  · obtain ⟨rest, content⟩ := List.head?_eq_some_iff.mp mark
    rw [content]
    rfl

theorem leadingWords_of_no_comment {line keyword argument : List Char}
    (noComment : ¬ IsComment line) :
    leadingWords line = some (keyword, argument) ↔
      ∃ others, words line = keyword :: argument :: others := by
  rw [isComment_iff] at noComment
  unfold leadingWords
  split
  · rename_i content
    exact absurd (Or.inl (by rw [content]; rfl)) noComment
  · rename_i content
    exact absurd (Or.inr (by rw [content]; rfl)) noComment
  · rw [Text.words_trim]
    split
    · rename_i found
      simp [found]
    · rename_i few
      exact iff_of_false (by simp) fun ⟨others, found⟩ => few _ _ _ found

theorem says_iff {line keyword argument : List Char} (noComment : ¬ IsComment line) :
    Says line keyword argument ↔ ∃ others, words line = keyword :: argument :: others := by
  constructor
  · rintro ⟨_, behind, rest, leads, next⟩
    exact ⟨words rest, by rw [leads.words_eq, next.words_eq]⟩
  · rintro ⟨others, found⟩
    obtain ⟨behind, leads, found⟩ := Text.words_eq_cons_iff.mp found
    obtain ⟨rest, next, _⟩ := Text.words_eq_cons_iff.mp found
    exact ⟨noComment, behind, rest, leads, next⟩

theorem leadingWords_eq_some_iff {line keyword argument : List Char} :
    leadingWords line = some (keyword, argument) ↔ Says line keyword argument := by
  by_cases comment : IsComment line
  · rw [leadingWords_of_comment comment]
    exact iff_of_false (by simp) fun holds => holds.noComment comment
  · rw [leadingWords_of_no_comment comment, says_iff comment]

theorem ofLine_of_words {line keyword argument : List Char} (holds : Says line keyword argument) :
    Directive.ofLine line =
      if keyword = "nameserver".toList then (Address.ipv4? argument).map .nameserver
      else if keyword = "domain".toList then some (.domain (String.ofList argument))
      else if keyword = "search".toList then some (.search (String.ofList argument))
      else none := by
  rw [Directive.ofLine, leadingWords_eq_some_iff.mpr holds]

theorem ofLine_eq_some_iff {line : List Char} {directive : Directive} :
    Directive.ofLine line = some directive ↔ Gives line directive := by
  constructor
  · intro read
    cases led : leadingWords line with
    | none => rw [Directive.ofLine, led] at read; cases read
    | some said =>
        obtain ⟨keyword, argument⟩ := said
        have holds := leadingWords_eq_some_iff.mp led
        have written : (String.ofList argument).toList = argument := String.toList_ofList
        rw [ofLine_of_words holds] at read
        split at read
        · rename_i known
          subst known
          obtain ⟨address, found, rfl⟩ := Option.map_eq_some_iff.mp read
          exact .nameserver holds (Address.ipv4?_eq_some_iff.mp found)
        split at read
        · rename_i known
          subst known
          cases read
          exact .domain (by rw [written]; exact holds)
        split at read
        · rename_i known
          subst known
          cases read
          exact .search (by rw [written]; exact holds)
        · cases read
  · rintro (⟨holds, dotted⟩ | holds | holds)
    · rw [ofLine_of_words holds, if_pos rfl, Address.ipv4?_eq_some_iff.mpr dotted]
      rfl
    · rw [ofLine_of_words holds, if_neg (by decide), if_pos rfl, String.ofList_toList]
    · rw [ofLine_of_words holds, if_neg (by decide), if_neg (by decide), if_pos rfl,
        String.ofList_toList]

/-! ## First lines -/

def IsFirst {Row Value : Type} (Holds : Row → Value → Prop) (rows : List Row) (value : Value) :
    Prop :=
  ∃ before row after, rows = before ++ row :: after ∧ Holds row value ∧
    ∀ earlier ∈ before, ∀ other, ¬ Holds earlier other

section Picking

variable {Value : Type} {pick : Directive → Option Value} {make : Value → Directive}

theorem findSome?_directives (pick : Directive → Option Value) (rows : List (List Char)) :
    (rows.filterMap Directive.ofLine).findSome? pick =
      rows.findSome? fun row => (Directive.ofLine row).bind pick := by
  rw [← List.head?_filterMap, List.filterMap_filterMap, List.head?_filterMap]

variable (picks : ∀ directive value, pick directive = some value ↔ directive = make value)
include picks

theorem bind_pick_eq_some_iff {row : List Char} {value : Value} :
    (Directive.ofLine row).bind pick = some value ↔ Gives row (make value) := by
  rw [← ofLine_eq_some_iff, Option.bind_eq_some_iff]
  simp only [picks, exists_eq_right]

theorem bind_pick_eq_none_iff {row : List Char} :
    (Directive.ofLine row).bind pick = none ↔ ∀ value, ¬ Gives row (make value) := by
  rw [Option.eq_none_iff_forall_ne_some]
  exact forall_congr' fun value => not_congr (bind_pick_eq_some_iff picks)

theorem findSome?_directives_eq_some_iff {rows : List (List Char)} {value : Value} :
    (rows.filterMap Directive.ofLine).findSome? pick = some value ↔
      IsFirst (fun row value => Gives row (make value)) rows value := by
  rw [findSome?_directives, List.findSome?_eq_some_iff]
  simp only [IsFirst, bind_pick_eq_some_iff picks, bind_pick_eq_none_iff picks]

theorem findSome?_directives_eq_none_iff {rows : List (List Char)} :
    (rows.filterMap Directive.ofLine).findSome? pick = none ↔
      ∀ row ∈ rows, ∀ value, ¬ Gives row (make value) := by
  rw [findSome?_directives, List.findSome?_eq_none_iff]
  simp only [bind_pick_eq_none_iff picks]

end Picking

theorem nameserver?_eq_some_iff (directive : Directive) (address : Ipv4Address) :
    directive.nameserver? = some address ↔ directive = .nameserver address := by
  cases directive <;> simp [Directive.nameserver?]

theorem domain?_eq_some_iff (directive : Directive) (name : String) :
    directive.domain? = some name ↔ directive = .domain name := by
  cases directive <;> simp [Directive.domain?]

theorem search?_eq_some_iff (directive : Directive) (name : String) :
    directive.search? = some name ↔ directive = .search name := by
  cases directive <;> simp [Directive.search?]

/-! ## Rows that make no difference -/

inductive Keyword
  | nameserver
  | domain
  | search
  deriving DecidableEq

def Keyword.chars : Keyword → List Char
  | .nameserver => "nameserver".toList
  | .domain => "domain".toList
  | .search => "search".toList

def Directive.keyword : Directive → Keyword
  | .nameserver _ => .nameserver
  | .domain _ => .domain
  | .search _ => .search

theorem Keyword.eq_of_chars {first second : Keyword} :
    first.chars = second.chars → first = second := by
  cases first <;> cases second <;> decide

/-- A comment, a blank line, or a line with another keyword. -/
inductive IsIdle (line : List Char) : Prop
  | comment (comment : IsComment line)
  | blank (blank : ∀ char ∈ line, isBlank char = true)
  | other {word rest : List Char} (leads : LeadsWith line word rest)
      (unknown : ∀ keyword : Keyword, keyword.chars ≠ word)

/-- One row that makes no difference is put between others, which may stand anywhere if it is
idle, and behind a row that gives a directive of its own keyword if it is not. -/
inductive Adds : List (List Char) → List (List Char) → Prop
  | idle {before after : List (List Char)} {line : List Char} (unbroken : '\n' ∉ line)
      (idle : IsIdle line) : Adds (before ++ after) (before ++ line :: after)
  | late {before after : List (List Char)} {line earlier rest : List Char}
      {directive : Directive} (unbroken : '\n' ∉ line) (member : earlier ∈ before)
      (gives : Gives earlier directive) (leads : LeadsWith line directive.keyword.chars rest) :
      Adds (before ++ after) (before ++ line :: after)

theorem Gives.leadsWith {line : List Char} {directive : Directive}
    (gives : Gives line directive) : ∃ rest, LeadsWith line directive.keyword.chars rest := by
  rcases gives with ⟨holds, _⟩ | holds | holds <;>
    obtain ⟨rest, _, leads, _⟩ := holds.leads <;>
    exact ⟨rest, leads⟩

theorem keyword_of_gives {line word rest : List Char} {directive : Directive}
    (leads : LeadsWith line word rest) (gives : Gives line directive) :
    directive.keyword.chars = word := by
  obtain ⟨behind, own⟩ := gives.leadsWith
  exact (List.cons.inj (own.words_eq.symm.trans leads.words_eq)).1

theorem ofLine_of_idle {line : List Char} (idle : IsIdle line) : Directive.ofLine line = none := by
  rw [Option.eq_none_iff_forall_ne_some]
  intro directive read
  have gives := ofLine_eq_some_iff.mp read
  rcases idle with comment | blank | ⟨leads, unknown⟩
  · rcases gives with ⟨holds, _⟩ | holds | holds <;> exact holds.noComment comment
  · obtain ⟨rest, leads⟩ := gives.leadsWith
    have none := Text.words_of_blank blank
    rw [leads.words_eq] at none
    cases none
  · exact unknown directive.keyword (keyword_of_gives leads gives)

theorem findSome?_insert {Item Value : Type} {pick : Item → Option Value} {before after : List Item}
    {item : Item} (settled : pick item = none ∨ ∃ earlier ∈ before, (pick earlier).isSome = true) :
    (before ++ item :: after).findSome? pick = (before ++ after).findSome? pick := by
  rw [List.findSome?_append, List.findSome?_append]
  rcases settled with nothing | found
  · rw [List.findSome?_cons, nothing]
  · rw [Option.or_of_isSome (List.findSome?_isSome_iff.mpr found),
      Option.or_of_isSome (List.findSome?_isSome_iff.mpr found)]

/-- A directive is of no effect behind another with its keyword. -/
theorem ofDirectives_insert {before after : List Directive} {directive earlier : Directive}
    (member : earlier ∈ before) (same : earlier.keyword = directive.keyword) :
    ofDirectives (before ++ directive :: after) = ofDirectives (before ++ after) := by
  have settled : ∀ {Value : Type} (pick : Directive → Option Value),
      (pick directive = none ∨ (pick earlier).isSome = true) →
      (before ++ directive :: after).findSome? pick = (before ++ after).findSome? pick :=
    fun pick either => findSome?_insert (either.imp_right fun some => ⟨earlier, member, some⟩)
  have nameserver : directive.nameserver? = none ∨ earlier.nameserver?.isSome = true := by
    cases directive <;> cases earlier <;> simp_all [Directive.nameserver?, Directive.keyword]
  have domain : directive.domain? = none ∨ earlier.domain?.isSome = true := by
    cases directive <;> cases earlier <;> simp_all [Directive.domain?, Directive.keyword]
  have search : directive.search? = none ∨ earlier.search?.isSome = true := by
    cases directive <;> cases earlier <;> simp_all [Directive.search?, Directive.keyword]
  simp only [ofDirectives, settled _ nameserver, settled _ domain, settled _ search]

theorem Adds.ofDirectives_eq {rows others : List (List Char)} (adds : Adds rows others) :
    ofDirectives (others.filterMap Directive.ofLine) =
      ofDirectives (rows.filterMap Directive.ofLine) := by
  cases adds with
  | idle _ idle =>
      rw [List.filterMap_append, List.filterMap_append,
        List.filterMap_cons_none (ofLine_of_idle idle)]
  | @late before after line earlier _ directive _ member gives leads =>
      rw [List.filterMap_append, List.filterMap_append]
      cases read : Directive.ofLine line with
      | none => rw [List.filterMap_cons_none read]
      | some other =>
          rw [List.filterMap_cons_some read]
          have same := keyword_of_gives leads (ofLine_eq_some_iff.mp read)
          exact ofDirectives_insert
            (List.mem_filterMap.mpr ⟨earlier, member, ofLine_eq_some_iff.mpr gives⟩)
            (Keyword.eq_of_chars same).symm

theorem Adds.unbroken_iff {rows others : List (List Char)} (adds : Adds rows others) :
    (∀ row ∈ others, '\n' ∉ row) ↔ ∀ row ∈ rows, '\n' ∉ row := by
  cases adds with
  | idle unbroken | late unbroken =>
      simp only [List.forall_mem_append, List.forall_mem_cons, unbroken, not_false_eq_true,
        true_and]

/-! ## Texts -/

def ofRows (rows : List (List Char)) : String := String.ofList (['\n'].intercalate rows)

theorem parse_ofRows {rows : List (List Char)} (unbroken : ∀ row ∈ rows, '\n' ∉ row) :
    parse (ofRows rows) = ofDirectives (rows.filterMap Directive.ofLine) := by
  rw [parse_eq, ofRows, String.toList_ofList]
  cases rows with
  | nil =>
      have idle : IsIdle [] := .blank (by simp)
      have one : Text.lines (['\n'].intercalate []) = [[]] := rfl
      rw [one, List.filterMap_cons_none (ofLine_of_idle idle)]
  | cons row rest =>
      rw [Text.lines_eq_iff.mpr ⟨rfl, unbroken, List.cons_ne_nil row rest⟩]

theorem ofRows_lines (text : String) : ofRows (Text.lines text.toList) = text := by
  rw [ofRows, (Text.lines_eq_iff.mp rfl).joined, String.ofList_toList]

theorem parse_of_adds {rows others : List (List Char)} (alike : Relation.EqvGen Adds rows others)
    (unbroken : ∀ row ∈ rows, '\n' ∉ row) : parse (ofRows others) = parse (ofRows rows) := by
  have same : ofDirectives (others.filterMap Directive.ofLine) =
        ofDirectives (rows.filterMap Directive.ofLine) ∧
      ((∀ row ∈ others, '\n' ∉ row) ↔ ∀ row ∈ rows, '\n' ∉ row) := by
    clear unbroken
    induction alike with
    | rel _ _ adds => exact ⟨adds.ofDirectives_eq, adds.unbroken_iff⟩
    | refl => exact ⟨rfl, Iff.rfl⟩
    | symm _ _ _ ih => exact ⟨ih.1.symm, ih.2.symm⟩
    | trans _ _ _ _ _ first second =>
        exact ⟨second.1.trans first.1, second.2.trans first.2⟩
  rw [parse_ofRows unbroken, parse_ofRows (same.2.mpr unbroken), same.1]

/-- The first line that gives the address of a name server settles the name server, whatever
other such lines say before it; the first one that gives a domain settles the domain, and where
there is none, the first one that gives an entry for the search does.  Any number of lines that
make no difference may be put into the text and taken out of it. -/
theorem first_lines_settle_name_service (text : String) :
    let rows := Text.lines text.toList
    AreLines text.toList rows ∧
    (∀ address, (parse text).nameserver = some address ↔
      IsFirst (fun row address => Gives row (.nameserver address)) rows address) ∧
    (∀ name, (parse text).domain = some name ↔
      IsFirst (fun row name => Gives row (.domain name)) rows name ∨
        (∀ row ∈ rows, ∀ other, ¬ Gives row (.domain other)) ∧
          IsFirst (fun row name => Gives row (.search name)) rows name) ∧
    ∀ others, Relation.EqvGen Adds rows others → parse (ofRows others) = parse text := by
  intro rows
  have lines : AreLines text.toList rows := Text.lines_eq_iff.mp rfl
  rw [parse_eq]
  refine ⟨lines, fun address =>
    findSome?_directives_eq_some_iff nameserver?_eq_some_iff,
    fun name => ?_, fun others alike => ?_⟩
  · change ((rows.filterMap Directive.ofLine).findSome? Directive.domain?).or
      ((rows.filterMap Directive.ofLine).findSome? Directive.search?) = some name ↔ _
    rw [Option.or_eq_some_iff, findSome?_directives_eq_some_iff domain?_eq_some_iff,
      findSome?_directives_eq_none_iff domain?_eq_some_iff,
      findSome?_directives_eq_some_iff search?_eq_some_iff]
  · rw [parse_of_adds alike lines.unbroken, ofRows_lines, parse_eq]

/-- A file with a name server that has a long address, two that have short ones, and an entry
for the search in front of the domain. -/
def generatedRows : List (List Char) :=
  ["# generated", "nameserver fe80::1", "nameserver 192.168.1.1", "nameserver 8.8.8.8",
    "search corp.example home.example", "domain example.org", ""].map String.toList

theorem generated_file_is_settled :
    let text := ofRows generatedRows
    let fewer := (generatedRows.eraseIdx 3).tail
    Text.lines text.toList = generatedRows ∧
      parse text = ⟨some (.ofOctets 192 168 1 1), some "example.org"⟩ ∧
      Relation.EqvGen Adds generatedRows fewer ∧ parse (ofRows fewer) = parse text := by
  intro text fewer
  have unbroken : ∀ row ∈ generatedRows, '\n' ∉ row := by decide +kernel
  have rows : Text.lines text.toList = generatedRows :=
    Text.lines_eq_iff.mpr ⟨String.toList_ofList.symm, unbroken, List.cons_ne_nil _ _⟩
  have read : parse text = ⟨some (.ofOctets 192 168 1 1), some "example.org"⟩ :=
    (parse_ofRows unbroken).trans (by decide +kernel)
  have comment : Adds ([] ++ fewer) ([] ++ "# generated".toList :: fewer) :=
    .idle (by decide) (.comment (isComment_iff.mpr (by decide)))
  have settled : Gives "nameserver 192.168.1.1".toList (.nameserver (.ofOctets 192 168 1 1)) :=
    ofLine_eq_some_iff.mp (by decide +kernel)
  have found : words "nameserver 8.8.8.8".toList =
      ["nameserver".toList, "8.8.8.8".toList] := by decide +kernel
  obtain ⟨rest, leads, _⟩ := Text.words_eq_cons_iff.mp found
  have late : Adds (generatedRows.take 3 ++ generatedRows.drop 4)
      (generatedRows.take 3 ++ "nameserver 8.8.8.8".toList :: generatedRows.drop 4) :=
    .late (by decide) (List.mem_cons_of_mem _ (List.mem_cons_of_mem _ (List.mem_cons_self ..)))
      settled leads
  have alike : Relation.EqvGen Adds generatedRows fewer :=
    .trans _ _ _ (.symm _ _ (.rel _ _ late)) (.symm _ _ (.rel _ _ comment))
  obtain ⟨_, _, _, same⟩ := first_lines_settle_name_service text
  exact ⟨rows, read, alike, same fewer (rows ▸ alike)⟩

end Masquerade.NameService
