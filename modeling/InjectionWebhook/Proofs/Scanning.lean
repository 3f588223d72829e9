/-
# Written texts are scanned back

The writer puts texts between quotes and escapes what cannot stand there.  The scanner takes a text
one character at a time, and undoes each escape (`Json.Scan.feed_escape`), so that whatever is in a
text comes back (`Json.Scan.feed_text`).  Lists and objects are scanned entry by entry
(`Json.Scan.feed_entries`).

So what was written is scanned as what it was (`Json.scan_render`), if there are no numbers in it and
its containers are not too deep (`Json.Plain`), and every decoder that does not mind places reads it
(`Decoder.ofText_render`).  In particular an object of texts is read as it was written, whatever its
keys and texts are (`Json.read_render`).
-/
import InjectionWebhook.Json.Writer
import InjectionWebhook.Proofs.Places

namespace InjectionWebhook
namespace Json
namespace Scan

/-! ## 1. Characters one after the other -/

/-- The scanner after some characters, the first of which stands at a place. -/
def feed (s : State) (here : Place) : List Char → State
  | [] => s
  | c :: cs => feed (step s here c) (here.behind c) cs

/-- The place behind some characters. -/
def past (here : Place) (cs : List Char) : Place := cs.foldl Place.behind here

theorem feed_cons (s : State) (here : Place) (c : Char) (cs : List Char) :
    feed s here (c :: cs) = feed (step s here c) (here.behind c) cs := rfl

theorem feed_append (s : State) (here : Place) (cs ds : List Char) :
    feed s here (cs ++ ds) = feed (feed s here cs) (past here cs) ds := by
  induction cs generalizing s here with
  | nil => rfl
  | cons c cs ih => exact ih _ _

/-- What a text holds whose end is reached in a state. -/
def scanned (s : State) (stop : Place) : Scanned :=
  match s.finish stop with
  | .ended root surplus => { root, surplus }
  | .reading p => { root := abandon none p.frames, surplus := none }

/-- A text is scanned by feeding its characters. -/
theorem scan_eq (text : String) :
    scan text = scanned (feed (.reading {}) {} text.toList) (past {} text.toList) := by
  have hfold : ∀ (cs : List Char) (s : State) (here : Place),
      cs.foldl (fun r c => (step r.1 r.2 c, r.2.behind c)) (s, here) =
        (feed s here cs, past here cs) := by
    intro cs
    induction cs with
    | nil => exact fun _ _ => rfl
    | cons c cs ih => exact fun s here => ih _ _
  exact congrArg (fun r : State × Place => scanned r.1 r.2) (hfold text.toList (.reading {}) {})

/-! ## 2. Texts -/

/-- The scanner inside a lexeme. -/
def inside (p : Progress) (l : Lexeme) : State := .reading { p with lexeme := l }

/-- A hexadecimal digit is read as it was written. -/
theorem hexValue?_hexDigit : ∀ n < 16, hexValue? (hexDigit n) = some n := by decide

/-- A digit of a character code is taken. -/
theorem step_digit (p : Progress) (units : List Nat) (owed value : Nat) (here : Place) {c : Char}
    {digit : Nat} (h : hexValue? c = some digit) :
    step (inside p (.code units owed value)) here c =
      inside p (if owed ≤ 1 then .text ((16 * value + digit) :: units)
        else .code units (owed - 1) (16 * value + digit)) := by
  rw [inside, step]
  simp only [h]
  by_cases howed : owed ≤ 1
  · rw [if_pos howed, if_pos howed]
    rfl
  · rw [if_neg howed, if_neg howed]
    rfl

/-- A code of two zeros and two digits stands for the number that these digits make. -/
theorem feed_code (p : Progress) (units : List Nat) (here : Place) {n : Nat} (hn : n < 32) :
    feed (inside p (.text units)) here
        ['\\', 'u', '0', '0', hexDigit (n / 16), hexDigit (n % 16)] =
      inside p (.text (n :: units)) := by
  have hzero : hexValue? '0' = some 0 := by decide
  have hhigh := hexValue?_hexDigit (n / 16) (by omega)
  have hlow := hexValue?_hexDigit (n % 16) (by omega)
  have hvalue : 16 * (16 * (16 * (16 * 0 + 0) + 0) + n / 16) + n % 16 = n := by omega
  have hslash : step (inside p (.text units)) here '\\' = inside p (.escape units) := rfl
  have hmark : ∀ place, step (inside p (.escape units)) place 'u' = inside p (.code units 4 0) :=
    fun _ => rfl
  rw [feed_cons, hslash, feed_cons, hmark, feed_cons, step_digit p _ _ _ _ hzero,
    if_neg (by decide), feed_cons, step_digit p _ _ _ _ hzero, if_neg (by decide), feed_cons,
    step_digit p _ _ _ _ hhigh, if_neg (by decide), feed_cons, step_digit p _ _ _ _ hlow,
    if_pos (by decide), hvalue]
  rfl

/-- **Every escape is undone**: what stands for a character inside quotes adds that character. -/
theorem feed_escape (p : Progress) (units : List Nat) (here : Place) (c : Char) :
    feed (inside p (.text units)) here (escape c) = inside p (.text (c.toNat :: units)) := by
  unfold escape
  split_ifs with hquote hslash hfeed hreturn htab hback hform hcontrol
  -- The seven characters that have a letter of their own come first.
  · subst hquote
    rfl
  · subst hslash
    rfl
  · subst hfeed
    rfl
  · subst hreturn
    rfl
  · subst htab
    rfl
  · subst hback
    rfl
  · subst hform
    rfl
  · exact feed_code p units here hcontrol
  · rw [feed_cons, inside, step]
    simp only [if_neg hquote, if_neg hslash, if_neg hcontrol]
    rfl

/-- The characters of a text inside quotes. -/
theorem feed_escapes (p : Progress) (cs : List Char) (units : List Nat) (here : Place) :
    feed (inside p (.text units)) here (cs.flatMap escape) =
      inside p (.text ((cs.map Char.toNat).reverse ++ units)) := by
  induction cs generalizing units here with
  | nil => rfl
  | cons c cs ih =>
    rw [List.flatMap_cons, feed_append, feed_escape, ih, List.map_cons, List.reverse_cons,
      List.append_assoc, List.singleton_append]

/-- No character is half of a surrogate pair. -/
theorem not_surrogate (c : Char) : isLead c.toNat = false ∧ isTrail c.toNat = false := by
  have hvalid : c.toNat < 0xD800 ∨ 0xDFFF < c.toNat ∧ c.toNat < 0x110000 := c.valid
  constructor
  · simp only [isLead, Bool.and_eq_false_iff, decide_eq_false_iff_not]
    omega
  · simp only [isTrail, Bool.and_eq_false_iff, decide_eq_false_iff_not]
    omega

/-- The units of characters are these characters. -/
theorem characters?_map : ∀ cs : List Char, characters? (cs.map Char.toNat) = some cs
  | [] => rfl
  | [c] => by
    obtain ⟨hlead, htrail⟩ := not_surrogate c
    simp [characters?, hlead, htrail, Char.ofNat_toNat]
  | c :: d :: cs => by
    obtain ⟨hlead, htrail⟩ := not_surrogate c
    have hrest := characters?_map (d :: cs)
    rw [List.map_cons] at hrest
    simp [characters?, hlead, htrail, hrest, Char.ofNat_toNat]

theorem textOf_toList (s : String) :
    textOf ((s.toList.map Char.toNat).reverse ++ []) = .ok (.str s) := by
  rw [List.append_nil, textOf, List.reverse_reverse, characters?_map]
  exact congrArg (fun s => Except.ok (Json.str s)) String.ofList_toList

/-- **A text between quotes comes back**, whatever it holds, where a value or a name may begin. -/
theorem feed_text (p : Progress) (here : Place) (s : String) (hbetween : p.lexeme = .between)
    (hbegins : (p.expectsValue || p.expectsName) = true) :
    ∃ units, feed (.reading p) here (quote s).toList =
      { p with lexeme := .text units, start := here }.finish (past here (quote s).toList)
        (.ok (.str s)) := by
  have hopen : step (.reading p) here '"' = inside { p with start := here } (.text []) := by
    rw [step, hbetween]
    change p.begin here '"' = _
    rw [Progress.begin]
    exact if_pos hbegins
  have hplace : past here (quote s).toList =
      (past (here.behind '"') (s.toList.flatMap escape)).behind '"' := by
    rw [quote, String.toList_ofList, List.cons_append, past, List.foldl_cons, List.foldl_append]
    rfl
  refine ⟨(s.toList.map Char.toNat).reverse ++ [], ?_⟩
  rw [hplace, ← textOf_toList, quote, String.toList_ofList, List.cons_append, feed_cons, hopen,
    feed_append, feed_escapes]
  rfl

/-! ## 3. Values -/

/-- Where a value is due, the value of a lexeme goes to the innermost container. -/
theorem finish_eq_deliver {p : Progress} (hvalue : p.expectsValue = true) (l : Lexeme)
    (here stop : Place) (value : Except Malformation Json) :
    { p with lexeme := l, start := here }.finish stop value =
      { p with start := here }.deliver (.leaf { start := some here, stop := some stop } value) := by
  have hname : { p with lexeme := l, start := here }.expectsName = false := by
    simp only [Progress.expectsValue, Bool.or_eq_true, decide_eq_true_eq] at hvalue
    rcases hvalue with h | h <;> simp [Progress.expectsName, h]
  rw [Progress.finish, hname, if_neg Bool.false_ne_true]
  rfl

/-- A value goes to the innermost container, whatever else the scanner was at. -/
theorem deliver_congr {p q : Progress} (hframes : p.frames = q.frames) (hstart : p.start = q.start)
    (w : Written) : p.deliver w = q.deliver w := by
  rw [Progress.deliver, Progress.deliver, hframes, hstart]

/-- A document comes back wherever a value is due, if so many more containers may be opened. -/
def ComesBack (n : Nat) (j : Json) : Prop :=
  ∀ (p : Progress) (here : Place), p.lexeme = .between → p.expectsValue = true →
    p.frames.length + n ≤ maxDepth →
      ∃ start w, w.bare = .ofJson j ∧
        feed (.reading p) here j.render.toList = { p with start }.deliver w

theorem comesBack_str (n : Nat) (s : String) : ComesBack n (.str s) := by
  intro p here hbetween hvalue _
  obtain ⟨units, hread⟩ := feed_text p here s hbetween (by rw [hvalue, Bool.true_or])
  refine ⟨here, _, ?_, hread.trans (finish_eq_deliver hvalue _ here _ _)⟩
  rfl

/-- The letters of a word are taken one after the other. -/
theorem feed_word (p : Progress) (value : Json) (here : Place) (c : Char) (owed : List Char) :
    feed (inside p (.word (c :: owed) value)) here (c :: owed) =
      { p with lexeme := .word [owed.getLastD c] value }.finish (past here (c :: owed))
        (.ok value) := by
  induction owed generalizing c here with
  | nil =>
    rw [feed_cons, inside, step]
    simp only [ne_eq, not_true_eq_false, if_false, List.isEmpty_nil, if_true]
    rfl
  | cons d owed ih =>
    have hstep : step (inside p (.word (c :: d :: owed) value)) here c =
        inside p (.word (d :: owed) value) := by
      rw [inside, step]
      simp only [ne_eq, not_true_eq_false, if_false]
      rfl
    rw [feed_cons, hstep, ih]
    rfl

/-- A word comes back, if its first letter says what it is. -/
theorem comesBack_word {j : Json} (n : Nat) (c d : Char) (owed : List Char)
    (htext : j.render.toList = c :: d :: owed) (hleaf : Written.ofJson j = .leaf {} (.ok j))
    (hbegin : ∀ (p : Progress) (here : Place), (p.expectsValue || p.expectsName) = true →
      p.begin here c = inside { p with start := here } (.word (d :: owed) j)) : ComesBack n j := by
  intro p here hbetween hvalue _
  have hopen : step (.reading p) here c = inside { p with start := here } (.word (d :: owed) j) := by
    rw [step, hbetween]
    exact hbegin p here (by rw [hvalue, Bool.true_or])
  rw [htext, feed_cons, hopen, feed_word]
  refine ⟨here, _, ?_, finish_eq_deliver hvalue _ here _ _⟩
  exact hleaf.symm

theorem comesBack_null (n : Nat) : ComesBack n .null := by
  refine comesBack_word n 'n' 'u' ['l', 'l'] (by decide) rfl ?_
  exact fun p here h => if_pos h

theorem comesBack_bool (n : Nat) (b : Bool) : ComesBack n (.bool b) := by
  cases b with
  | true =>
    refine comesBack_word n 't' 'r' ['u', 'e'] (by decide) rfl ?_
    exact fun p here h => if_pos h
  | false =>
    refine comesBack_word n 'f' 'a' ['l', 's', 'e'] (by decide) rfl ?_
    exact fun p here h => if_pos h

/-! ## 4. Containers -/

/-- The scanner inside a container, between two lexemes. -/
def within (frames : List Frame) (f : Frame) (start : Place) (expected : Expected) : State :=
  .reading { lexeme := .between, start, frames := f :: frames, expected }

/-- Texts, each behind a comma. -/
def behindCommas (texts : List String) : String := texts.foldr (fun t s => "," ++ t ++ s) ""

/-- Texts with commas between them. -/
def betweenCommas : List String → String
  | [] => ""
  | t :: texts => t ++ behindCommas texts

/-- One kind of container: how it holds its entries, and what may come first and next in it. -/
structure Kind (ω : Type) where
  content : List ω → Content
  first : Expected
  next : Expected
  last : Char
  comma : ∀ frames outline ws start here,
    step (within frames ⟨outline, content ws⟩ start .comma) here ',' =
      within frames ⟨outline, content ws⟩ start next
  close : ∀ frames outline ws start here expected, expected = .comma ∨ expected = first →
    step (within frames ⟨outline, content ws⟩ start expected) here last =
      { start, frames : Progress }.deliver
        ((⟨outline, content ws⟩ : Frame).close (here.behind last))

/-- Lists. -/
def Kind.list : Kind Written where
  content := .items
  first := .firstItem
  next := .value
  last := ']'
  comma _ _ _ _ _ := rfl
  close _ _ _ _ _ _ h := by rcases h with rfl | rfl <;> rfl

/-- Objects. -/
def Kind.object : Kind (MemberName × Written) where
  content ws := .members ws none
  first := .firstName
  next := .name
  last := '\x7d'
  comma _ _ _ _ _ := rfl
  close _ _ _ _ _ _ h := by rcases h with rfl | rfl <;> rfl

section Entries

variable {ε ω : Type} (kind : Kind ω) {frames : List Frame} {outline : Outline}
variable {text : ε → String} {R : ε → ω → Prop}

/-- An entry is taken wherever one is due. -/
def Taken (frames : List Frame) (outline : Outline) (text : ε → String) (R : ε → ω → Prop)
    (e : ε) : Prop :=
  ∀ ws start here expected, expected = kind.first ∨ expected = kind.next →
    ∃ start' w, R e w ∧
      feed (within frames ⟨outline, kind.content ws⟩ start expected) here (text e).toList =
        within frames ⟨outline, kind.content (w :: ws)⟩ start' .comma

/-- The entries after the first are taken one after the other. -/
theorem feed_behindCommas {es : List ε} (hes : ∀ e ∈ es, Taken kind frames outline text R e)
    (ws : List ω) (start here : Place) :
    ∃ start' ws', List.Forall₂ R es ws' ∧
      feed (within frames ⟨outline, kind.content ws⟩ start .comma) here
          (behindCommas (es.map text)).toList =
        within frames ⟨outline, kind.content (ws'.reverse ++ ws)⟩ start' .comma := by
  induction es generalizing ws start here with
  | nil => exact ⟨start, [], .nil, rfl⟩
  | cons e es ih =>
    have htext : (behindCommas ((e :: es).map text)).toList =
        ',' :: ((text e).toList ++ (behindCommas (es.map text)).toList) := by
      rw [List.map_cons, behindCommas, List.foldr_cons, String.toList_append, String.toList_append,
        List.append_assoc]
      rfl
    obtain ⟨start₁, w, hw, hentry⟩ :=
      hes e List.mem_cons_self ws start (here.behind ',') kind.next (.inr rfl)
    obtain ⟨start₂, ws', hws', hrest⟩ := ih (fun e he => hes e (List.mem_cons_of_mem _ he))
      (w :: ws) start₁ (past (here.behind ',') (text e).toList)
    refine ⟨start₂, w :: ws', .cons hw hws', ?_⟩
    rw [htext, feed_cons, kind.comma, feed_append, hentry, hrest, List.reverse_cons,
      List.append_assoc, List.singleton_append]

/-- **Entries are taken one after the other, up to the end of their container.** -/
theorem feed_entries {es : List ε} (hes : ∀ e ∈ es, Taken kind frames outline text R e)
    (start here : Place) :
    ∃ start' stop ws, List.Forall₂ R es ws ∧
      feed (within frames ⟨outline, kind.content []⟩ start kind.first) here
          ((betweenCommas (es.map text)).toList ++ [kind.last]) =
        { start := start', frames : Progress }.deliver
          ((⟨outline, kind.content ws.reverse⟩ : Frame).close stop) := by
  cases es with
  | nil => exact ⟨start, _, [], .nil, kind.close _ _ _ _ _ _ (.inr rfl)⟩
  | cons e es =>
    obtain ⟨start₁, w, hw, hentry⟩ := hes e List.mem_cons_self [] start here kind.first (.inl rfl)
    obtain ⟨start₂, ws, hws, hrest⟩ := feed_behindCommas kind
      (fun e he => hes e (List.mem_cons_of_mem _ he)) [w] start₁ (past here (text e).toList)
    let last := past here (betweenCommas ((e :: es).map text)).toList
    refine ⟨start₂, last.behind kind.last, w :: ws, .cons hw hws, ?_⟩
    have hentries : feed (within frames ⟨outline, kind.content []⟩ start kind.first) here
        (betweenCommas ((e :: es).map text)).toList =
          within frames ⟨outline, kind.content (ws.reverse ++ [w])⟩ start₂ .comma := by
      rw [List.map_cons, betweenCommas, String.toList_append, feed_append, hentry, hrest]
    rw [feed_append, hentries, List.reverse_cons]
    exact kind.close _ _ _ _ _ _ (.inl rfl)

end Entries

theorem renderItems_eq (items : List Json) :
    renderItems items = behindCommas (items.map render) := by
  induction items with
  | nil => rfl
  | cons item items ih => rw [renderItems, ih, List.map_cons, behindCommas, behindCommas,
      List.foldr_cons]

theorem render_arr (items : List Json) :
    (arr items).render = "[" ++ betweenCommas (items.map render) ++ "]" := by
  cases items with
  | nil => rfl
  | cons item items =>
    rw [render, renderItems_eq, List.map_cons, betweenCommas]
    simp only [String.append_assoc]

/-- The text of a member. -/
def memberText (m : String × Json) : String := quote m.1 ++ ":" ++ m.2.render

theorem renderMembers_eq (members : List (String × Json)) :
    renderMembers members = behindCommas (members.map memberText) := by
  induction members with
  | nil => rfl
  | cons m members ih =>
    rw [renderMembers, ih, List.map_cons, behindCommas, behindCommas, List.foldr_cons, memberText]
    simp only [String.append_assoc]

theorem render_obj (members : List (String × Json)) :
    (obj members).render = "\x7b" ++ betweenCommas (members.map memberText) ++ "\x7d" := by
  cases members with
  | nil => rfl
  | cons m members =>
    rw [render, renderMembers_eq, List.map_cons, betweenCommas, memberText]
    simp only [String.append_assoc]

/-- An element that comes back is taken. -/
theorem taken_item {n : Nat} {frames : List Frame} (outline : Outline) {item : Json}
    (hitem : ComesBack n item) (hdeep : frames.length + 1 + n ≤ maxDepth) :
    Taken .list frames outline render (fun j w => w.bare = .ofJson j) item := by
  intro ws start here expected h
  exact hitem { lexeme := .between, start, frames := ⟨outline, .items ws⟩ :: frames, expected } here
    rfl (by rcases h with rfl | rfl <;> rfl) hdeep

/-- A member whose value comes back is taken. -/
theorem taken_member {n : Nat} {frames : List Frame} (outline : Outline) {m : String × Json}
    (hvalue : ComesBack n m.2) (hdeep : frames.length + 1 + n ≤ maxDepth) :
    Taken .object frames outline memberText
      (fun m w => w.1 = .name m.1 ∧ w.2.bare = .ofJson m.2) m := by
  intro ws start here expected hname
  have hkey : feed (within frames ⟨outline, .members ws none⟩ start expected) here
      (quote m.1).toList =
        within frames ⟨outline, .members ws (some (.name m.1))⟩ here .colon := by
    obtain ⟨units, hread⟩ := feed_text
      { lexeme := .between, start, frames := ⟨outline, .members ws none⟩ :: frames, expected }
      here m.1 rfl (by rcases hname with rfl | rfl <;> rfl)
    refine hread.trans ?_
    rcases hname with rfl | rfl <;> rfl
  have hcolon : ∀ place, step (within frames ⟨outline, .members ws (some (.name m.1))⟩ here .colon)
      place ':' = within frames ⟨outline, .members ws (some (.name m.1))⟩ here .value := fun _ => rfl
  have htext : (memberText m).toList = (quote m.1).toList ++ ':' :: m.2.render.toList := by
    rw [memberText, String.toList_append, String.toList_append, List.append_assoc]
    rfl
  obtain ⟨start', w, hw, hread⟩ := hvalue
    { lexeme := .between, start := here
      frames := ⟨outline, .members ws (some (.name m.1))⟩ :: frames, expected := .value }
    ((past here (quote m.1).toList).behind ':') rfl rfl hdeep
  refine ⟨start', (.name m.1, w), ⟨rfl, hw⟩, ?_⟩
  change feed (within frames ⟨outline, .members ws none⟩ start expected) here _ = _
  rw [htext, feed_append, hkey, feed_cons, hcolon]
  exact hread

/-- The outline of a container that begins at a place. -/
def outlineAt (frames : List Frame) (here : Place) : Outline :=
  { start := some here, closed := false, deep := decide (maxDepth ≤ frames.length) }

/-- A container that is not too deep loses nothing but its places. -/
theorem bare_outlineAt {frames : List Frame} {here : Place} (stop : Mark)
    (h : frames.length < maxDepth) :
    Outline.bare { outlineAt frames here with stop, closed := true } = {} := by
  have hdeep : decide (maxDepth ≤ frames.length) = false := by simp [h]
  rw [outlineAt, Outline.bare, hdeep]

/-- A container is opened where a value is due. -/
theorem step_open {p : Progress} (hbetween : p.lexeme = .between) (hvalue : p.expectsValue = true)
    (here : Place) :
    step (.reading p) here '[' =
        within p.frames ⟨outlineAt p.frames here, .items []⟩ p.start .firstItem ∧
      step (.reading p) here '\x7b' =
        within p.frames ⟨outlineAt p.frames here, .members [] none⟩ p.start .firstName := by
  rw [step, step, hbetween]
  constructor
  · exact (if_pos hvalue).trans (by rw [hbetween]; rfl)
  · exact (if_pos hvalue).trans (by rw [hbetween]; rfl)

theorem comesBack_arr {n : Nat} {items : List Json} (h : ∀ item ∈ items, ComesBack n item) :
    ComesBack (n + 1) (.arr items) := by
  intro p here hbetween hvalue hdeep
  have htaken : ∀ item ∈ items, Taken .list p.frames (outlineAt p.frames here) render
      (fun j w => w.bare = .ofJson j) item := fun item hitem =>
    taken_item _ (h item hitem) (by omega)
  obtain ⟨start, stop, ws, hws, hread⟩ := feed_entries .list htaken p.start (here.behind '[')
  have htext : (arr items).render.toList =
      '[' :: ((betweenCommas (items.map render)).toList ++ [']']) := by
    rw [render_arr, String.toList_append, String.toList_append, List.append_assoc]
    rfl
  rw [htext, feed_cons, (step_open hbetween hvalue here).1]
  refine ⟨start, _, ?_, hread.trans (deliver_congr rfl rfl _)⟩
  have hitems : ws.map Written.bare = items.map Written.ofJson := by
    rw [← List.forall₂_eq_eq_eq, List.forall₂_map_left_iff, List.forall₂_map_right_iff]
    exact hws.flip
  change Written.bare (.arr { outlineAt p.frames here with stop := some stop, closed := true }
    ws.reverse.reverse) = _
  rw [List.reverse_reverse, Written.bare, Written.bareItems_eq, hitems, Written.ofJson,
    Written.ofItems_eq, bare_outlineAt _ (by omega)]

theorem comesBack_obj {n : Nat} {members : List (String × Json)}
    (h : ∀ m ∈ members, ComesBack n m.2) : ComesBack (n + 1) (.obj members) := by
  intro p here hbetween hvalue hdeep
  have htaken : ∀ m ∈ members, Taken .object p.frames (outlineAt p.frames here) memberText
      (fun m w => w.1 = .name m.1 ∧ w.2.bare = .ofJson m.2) m := fun m hm =>
    taken_member _ (h m hm) (by omega)
  obtain ⟨start, stop, ws, hws, hread⟩ := feed_entries .object htaken p.start (here.behind '\x7b')
  have htext : (obj members).render.toList =
      '\x7b' :: ((betweenCommas (members.map memberText)).toList ++ ['\x7d']) := by
    rw [render_obj, String.toList_append, String.toList_append, List.append_assoc]
    rfl
  rw [htext, feed_cons, (step_open hbetween hvalue here).2]
  refine ⟨start, _, ?_, hread.trans (deliver_congr rfl rfl _)⟩
  have hmembers : (ws.map fun w => (w.1, w.2.bare)) =
      members.map fun m => (.name m.1, .ofJson m.2) := by
    rw [← List.forall₂_eq_eq_eq, List.forall₂_map_left_iff, List.forall₂_map_right_iff]
    exact hws.flip.imp fun w m hm => Prod.ext hm.1 hm.2
  change Written.bare (.obj { outlineAt p.frames here with stop := some stop, closed := true }
    ws.reverse.reverse) = _
  rw [List.reverse_reverse, Written.bare, Written.bareMembers_eq, hmembers, Written.ofJson,
    Written.ofMembers_eq, bare_outlineAt _ (by omega)]

end Scan

/-! ## 5. Documents -/

/-- A document without numbers, with so many containers one inside the other at most. -/
inductive Plain : Nat → Json → Prop
  | null (n : Nat) : Plain n .null
  | bool (n : Nat) (b : Bool) : Plain n (.bool b)
  | str (n : Nat) (s : String) : Plain n (.str s)
  | arr {n : Nat} {items : List Json} (h : ∀ item ∈ items, Plain n item) : Plain (n + 1) (.arr items)
  | obj {n : Nat} {members : List (String × Json)} (h : ∀ m ∈ members, Plain n m.2) :
    Plain (n + 1) (.obj members)

/-- **Plain documents come back.** -/
theorem Plain.comesBack {n : Nat} {j : Json} (h : j.Plain n) : Scan.ComesBack n j := by
  induction h with
  | null n => exact Scan.comesBack_null n
  | bool n b => exact Scan.comesBack_bool n b
  | str n s => exact Scan.comesBack_str n s
  | arr _ ih => exact Scan.comesBack_arr ih
  | obj _ ih => exact Scan.comesBack_obj ih

theorem Plain.mono {n m : Nat} {j : Json} (h : j.Plain n) (hnm : n ≤ m) : j.Plain m := by
  induction h generalizing m with
  | null => exact .null m
  | bool _ b => exact .bool m b
  | str _ s => exact .str m s
  | arr _ ih =>
    obtain ⟨m, rfl⟩ := Nat.exists_eq_add_of_lt hnm
    exact .arr fun item hitem => ih item hitem (by omega)
  | obj _ ih =>
    obtain ⟨m, rfl⟩ := Nat.exists_eq_add_of_lt hnm
    exact .obj fun item hitem => ih item hitem (by omega)

/-- **What was written is scanned as what it was**, up to places, and to its end. -/
theorem scan_render {j : Json} (h : j.Plain Scan.maxDepth) :
    (scan j.render).root.bare = .ofJson j ∧ (scan j.render).surplus = none := by
  obtain ⟨start, w, hw, hread⟩ := h.comesBack {} {} rfl rfl (Nat.le_of_eq (Nat.zero_add _))
  have hscan : scan j.render = { root := w, surplus := none } := by
    rw [Scan.scan_eq, hread]
    rfl
  rw [hscan]
  exact ⟨hw, rfl⟩

end Json

open Json in
/-- **What was written is read as what it was.** -/
theorem Decoder.ofText_render {α : Type} {d : Decoder α} (hd : d.Placeless) {j : Json} {a : α}
    (hj : j.Plain Scan.maxDepth) (h : d.ofJson j = .ok a) : d.ofText j.render = .ok a := by
  obtain ⟨hroot, hsurplus⟩ := scan_render hj
  rw [Decoder.ofText, hd.eq_ok_of_ofJson hroot h, hsurplus]
  rfl

namespace Json

/-- The object with texts as its members. -/
def texts (ms : List (String × String)) : Json := .obj (ms.map fun m => (m.1, .str m.2))

/-- **An object of texts is read as it was written**, whatever its keys and its texts hold. -/
theorem read_render (ms : List (String × String)) (h : (ms.map (·.1)).Pairwise (· < ·)) :
    Json.read (texts ms).render = .ok (texts ms) := by
  have hplain : (texts ms).Plain Scan.maxDepth := by
    refine .mono (n := 1) (.obj fun m hm => ?_) (by decide)
    obtain ⟨m, -, rfl⟩ := List.mem_map.mp hm
    exact .str 0 m.2
  have hcanonical : (texts ms).Canonical := by
    refine canonical_obj.mpr ⟨List.pairwise_map.mpr (List.pairwise_map.mp h), fun k v hv => ?_⟩
    obtain ⟨m, -, heq⟩ := List.mem_map.mp (Entries.mem_of_lookup hv)
    obtain ⟨-, rfl⟩ := Prod.mk.inj heq
    trivial
  exact Decoder.ofText_render Decoder.placeless_any hplain (Decoder.any_ofJson hcanonical)

end Json
end InjectionWebhook
