import Mathlib.Data.UInt
import ChatWarden.Proofs.Disclosure
import ChatWarden.Proofs.HelpTexts
import ChatWarden.Proofs.Text.Decimal

/-!
# Paging

The listing cuts the visible commands into pages. There are no more pages than the commands take
(`Help.pageCount_le_iff`), so the pages one after the other are the commands
(`Help.flatMap_onPage_pageCount`), and only the last may be short of its size. A number is answered
with the page nearest to it (`Builtin.help_pages`), and the text of a page shows the commands on it
(`Help.IsListing`). The numbers on the way are counted in 64 bits, half of them signed; no step
leaves their range (`Help.placeInWords?_eq`).
-/

namespace ChatWarden

namespace Help

variable {commands : List Command} {count perPage page : Nat}

/-- A page of no commands is taken for one of one command. -/
theorem pageCount_max (count perPage : Nat) :
    pageCount count (max perPage 1) = pageCount count perPage := by
  have hsize : max (max perPage 1) 1 = max perPage 1 := by omega
  simp only [pageCount, hsize]

/-- So many pages are enough exactly if they are one at least and have room for the commands. -/
theorem pageCount_le_iff {n : Nat} :
    pageCount count perPage ≤ n ↔ 1 ≤ n ∧ count ≤ n * max perPage 1 := by
  have hsize : 0 < max perPage 1 := by omega
  simp only [pageCount, Nat.max_le, Nat.div_le_iff_le_mul_add_pred hsize, Nat.mul_comm n]
  omega

theorem one_le_pageCount (count perPage : Nat) : 1 ≤ pageCount count perPage :=
  (pageCount_le_iff.mp (Nat.le_refl _)).1

theorem le_pageCount_mul (count perPage : Nat) :
    count ≤ pageCount count perPage * max perPage 1 :=
  (pageCount_le_iff.mp (Nat.le_refl _)).2

/-- Where a page after the first is needed, those before it do not take all commands. -/
theorem before_lt (hfirst : 1 < page) (hpage : page ≤ pageCount count perPage) :
    (page - 1) * max perPage 1 < count := by
  have hshort : ¬pageCount count perPage ≤ page - 1 := by omega
  rw [pageCount_le_iff] at hshort
  omega

theorem before_eq_zero (hfirst : ¬1 < page) (size : Nat) : (page - 1) * size = 0 := by
  have hzero : page - 1 = 0 := by omega
  rw [hzero, Nat.zero_mul]

theorem before_le (hpage : page ≤ pageCount count perPage) :
    (page - 1) * max perPage 1 ≤ count := by
  by_cases hfirst : 1 < page
  · exact Nat.le_of_lt (before_lt hfirst hpage)
  · rw [before_eq_zero hfirst]
    exact Nat.zero_le count

/-! ## The pages of a list -/

theorem length_onPage :
    (onPage commands page perPage).length =
      min (max perPage 1) (commands.length - (page - 1) * max perPage 1) := by
  simp [onPage]

/-- The first pages one after the other are the beginning of the list. -/
theorem flatMap_onPage (commands : List Command) (perPage n : Nat) :
    (List.range' 1 n).flatMap (onPage commands · perPage) =
      commands.take (n * max perPage 1) := by
  induction n with
  | zero => simp
  | succ n ih =>
      have hlast : onPage commands (1 + n) perPage =
          (commands.drop (n * max perPage 1)).take (max perPage 1) := by
        rw [onPage, Nat.add_sub_cancel_left]
      rw [List.range'_1_concat, List.flatMap_append, ih, List.flatMap_singleton, hlast,
        Nat.succ_mul, List.take_add]

theorem flatMap_onPage_pageCount (commands : List Command) (perPage : Nat) :
    (List.range' 1 (pageCount commands.length perPage)).flatMap (onPage commands · perPage) =
      commands := by
  rw [flatMap_onPage]
  exact List.take_of_length_le (le_pageCount_mul commands.length perPage)

/-- A page that is followed by another one is full. -/
theorem length_onPage_of_lt (hfirst : 1 ≤ page)
    (hpage : page < pageCount commands.length perPage) :
    (onPage commands page perPage).length = max perPage 1 := by
  have hnext : page * max perPage 1 < commands.length :=
    before_lt (Nat.lt_succ_of_le hfirst) hpage
  have hsplit : page * max perPage 1 = (page - 1) * max perPage 1 + max perPage 1 := by
    rw [← Nat.succ_mul]
    congr 1
    omega
  rw [length_onPage]
  omega

theorem onPage_ne_nil (hne : commands ≠ [])
    (hpage : page ≤ pageCount commands.length perPage) : onPage commands page perPage ≠ [] := by
  have hcount : 0 < commands.length := List.length_pos_iff.mpr hne
  have hbefore : (page - 1) * max perPage 1 < commands.length := by
    by_cases hfirst : 1 < page
    · exact before_lt hfirst hpage
    · rw [before_eq_zero hfirst]
      exact hcount
  rw [← List.length_pos_iff, length_onPage]
  omega

/-- How commands are divided into pages of a size: the pages are as few as have room for all, but
one at least; one after the other they are the commands; all but the last are full, and the last one
is empty only if all are. -/
structure Divides (commands : List Command) (size pages : Nat) : Prop where
  one_le : 1 ≤ pages
  enough : commands.length ≤ pages * size
  least : ∀ n, 1 ≤ n → commands.length ≤ n * size → pages ≤ n
  whole : (List.range' 1 pages).flatMap (onPage commands · size) = commands
  full : ∀ page, 1 ≤ page → page < pages → (onPage commands page size).length = size
  last_ne_nil : commands ≠ [] → onPage commands pages size ≠ []

theorem divides_pageCount (commands : List Command) {size : Nat} (hsize : 1 ≤ size) :
    Divides commands size (pageCount commands.length size) where
  one_le := one_le_pageCount commands.length size
  enough := by
    have henough := le_pageCount_mul commands.length size
    rwa [Nat.max_eq_left hsize] at henough
  least := by
    intro n hone hroom
    rw [pageCount_le_iff, Nat.max_eq_left hsize]
    exact ⟨hone, hroom⟩
  whole := flatMap_onPage_pageCount commands size
  full := by
    intro page hfirst hpage
    rw [length_onPage_of_lt hfirst hpage, Nat.max_eq_left hsize]
  last_ne_nil := by
    intro hne
    exact onPage_ne_nil hne (Nat.le_refl _)

/-! ## Counting in words -/

/-- The difference of two words; nothing where it is below zero. -/
def difference? (a b : UInt64) : Option UInt64 :=
  if b ≤ a then some (a - b) else none

/-- The sum of two words; nothing where it is no word. -/
def sum? (a b : UInt64) : Option UInt64 :=
  if a.toNat + b.toNat < UInt64.size then some (a + b) else none

/-- The product of two words; nothing where it is no word. -/
def product? (a b : UInt64) : Option UInt64 :=
  if a.toNat * b.toNat < UInt64.size then some (a * b) else none

/-- The quotient of two words, rounded up; nothing for a division by zero. -/
def quotientUp? (a b : UInt64) : Option UInt64 :=
  if b = 0 then none else if a % b = 0 then some (a / b) else sum? (a / b) 1

/-- The number between two bounds that is nearest to another; nothing where the bounds cross. -/
def nearest? (n low high : Int64) : Option Int64 :=
  if low ≤ high then some (if n < low then low else if high < n then high else n) else none

def pageCountInWords? (count perPage : UInt64) : Option UInt64 :=
  (quotientUp? count (max perPage 1)).map (max · 1)

/-- The page that a number asks for and how many commands stand before it, counted in words that
turn into signed ones and back. -/
def placeInWords? (requested : Int64) (count perPage : UInt64) : Option (UInt64 × UInt64) := do
  let pages ← pageCountInWords? count perPage
  let page ← nearest? requested 1 pages.toInt64
  let previous ← difference? page.toUInt64 1
  let before ← product? previous (max perPage 1)
  return (page.toUInt64, before)

theorem difference?_eq {a b : UInt64} (h : b.toNat ≤ a.toNat) :
    ∃ c, difference? a b = some c ∧ c.toNat = a.toNat - b.toNat := by
  have hle : b ≤ a := UInt64.le_iff_toNat_le.mpr h
  exact ⟨a - b, if_pos hle, UInt64.toNat_sub_of_le a b hle⟩

theorem sum?_eq {a b : UInt64} (h : a.toNat + b.toNat < UInt64.size) :
    ∃ c, sum? a b = some c ∧ c.toNat = a.toNat + b.toNat :=
  ⟨a + b, if_pos h, by rw [UInt64.toNat_add, Nat.mod_eq_of_lt h]⟩

theorem product?_eq {a b : UInt64} (h : a.toNat * b.toNat < UInt64.size) :
    ∃ c, product? a b = some c ∧ c.toNat = a.toNat * b.toNat :=
  ⟨a * b, if_pos h, by rw [UInt64.toNat_mul, Nat.mod_eq_of_lt h]⟩

theorem roundUp_of_mod_eq_zero {a b : Nat} (hb : 0 < b) (h : a % b = 0) :
    (a + b - 1) / b = a / b := by
  have hdiv := Nat.div_add_mod a b
  have hup : (b - 1) + b * (a / b) = a + b - 1 := by omega
  have hrest : b - 1 < b := by omega
  exact ((Nat.div_mod_unique hb).mpr ⟨hup, hrest⟩).1

theorem roundUp_of_mod_ne_zero {a b : Nat} (hb : 0 < b) (h : a % b ≠ 0) :
    (a + b - 1) / b = a / b + 1 := by
  have hdiv := Nat.div_add_mod a b
  have hlt : a % b < b := Nat.mod_lt a hb
  have hup : (a % b - 1) + b * (a / b + 1) = a + b - 1 := by
    rw [Nat.mul_succ]
    omega
  have hrest : a % b - 1 < b := by omega
  exact ((Nat.div_mod_unique hb).mpr ⟨hup, hrest⟩).1

-- One is added only where something is left over, so the quotient is below the greatest word then.
theorem quotientUp?_eq {a b : UInt64} (hb : 0 < b.toNat) :
    ∃ c, quotientUp? a b = some c ∧ c.toNat = (a.toNat + b.toNat - 1) / b.toNat := by
  have hne : b ≠ 0 := by
    intro hzero
    rw [hzero] at hb
    exact absurd hb (by decide)
  have hmod : a % b = 0 ↔ a.toNat % b.toNat = 0 := by
    rw [← UInt64.toNat_inj, UInt64.toNat_mod]
    rfl
  rw [quotientUp?, if_neg hne]
  by_cases hrest : a.toNat % b.toNat = 0
  · refine ⟨a / b, if_pos (hmod.mpr hrest), ?_⟩
    rw [UInt64.toNat_div, roundUp_of_mod_eq_zero hb hrest]
  · have hlt : a.toNat % b.toNat < b.toNat := Nat.mod_lt a.toNat hb
    have hpos : 0 < a.toNat := by
      apply Nat.pos_of_ne_zero
      intro hzero
      exact hrest (by rw [hzero, Nat.zero_mod])
    have hless : a.toNat / b.toNat < a.toNat := Nat.div_lt_self hpos (by omega)
    have hword : (a / b).toNat + (1 : UInt64).toNat < UInt64.size := by
      have ha : a.toNat < UInt64.size := a.toNat_lt_size
      rw [UInt64.toNat_div, UInt64.toNat_one]
      omega
    obtain ⟨c, hc, hvalue⟩ := sum?_eq hword
    refine ⟨c, ?_, ?_⟩
    · rw [if_neg (mt hmod.mp hrest), hc]
    · rw [hvalue, UInt64.toNat_div, UInt64.toNat_one, roundUp_of_mod_ne_zero hb hrest]

theorem nearest?_eq (n : Int64) {low high : Int64} (h : low.toInt ≤ high.toInt) :
    ∃ m, nearest? n low high = some m ∧ m.toInt = max low.toInt (min n.toInt high.toInt) := by
  have hle : low ≤ high := Int64.le_iff_toInt_le.mpr h
  refine ⟨_, if_pos hle, ?_⟩
  simp only [Int64.lt_iff_toInt_lt]
  split
  · omega
  · split <;> omega

theorem toInt_ofNat {n : Nat} (h : (n : Int) ≤ Int64.maxValue.toInt) :
    (Int64.ofNat n).toInt = n := by
  rw [Int64.toInt_maxValue] at h
  exact Int64.toInt_ofNat_of_lt (by omega)

theorem lt_size_of_le_maxValue {n : Nat} (h : (n : Int) ≤ Int64.maxValue.toInt) :
    n < UInt64.size := by
  rw [Int64.toInt_maxValue] at h
  unfold UInt64.size
  omega

theorem toInt_toInt64 {a : UInt64} (h : (a.toNat : Int) ≤ Int64.maxValue.toInt) :
    a.toInt64.toInt = a.toNat := by
  have ha : a.toInt64 = Int64.ofNat a.toNat := by
    rw [← UInt64.toInt64_ofNat', UInt64.ofNat_toNat]
  rw [ha, toInt_ofNat h]

theorem toNat_toUInt64 {n : Int64} (h : 0 ≤ n.toInt) : n.toUInt64.toNat = n.toInt.toNat := by
  rw [Int64.toNat_toUInt64_of_le]
  · rfl
  · exact Int64.le_iff_toInt_le.mpr h

theorem clampPage_mem_range (requested : Int) {pages : Nat} (hpages : 1 ≤ pages) :
    1 ≤ Builtin.clampPage requested pages ∧ Builtin.clampPage requested pages ≤ pages := by
  unfold Builtin.clampPage
  omega

theorem pageCount_le_count (count perPage : Nat) : pageCount count perPage ≤ max count 1 := by
  rw [pageCount_le_iff]
  refine ⟨by omega, ?_⟩
  calc
    count ≤ max count 1 := Nat.le_max_left count 1
    _ ≤ max count 1 * max perPage 1 := Nat.le_mul_of_pos_right _ (by omega)

theorem pageCountInWords?_eq (count perPage : UInt64) :
    ∃ pages, pageCountInWords? count perPage = some pages ∧
      pages.toNat = pageCount count.toNat perPage.toNat := by
  have hsize : (max perPage 1).toNat = max perPage.toNat 1 := UInt64.toNat_max perPage 1
  have hpos : 0 < (max perPage 1).toNat := by omega
  obtain ⟨quotient, hquotient, hvalue⟩ := quotientUp?_eq (a := count) hpos
  refine ⟨max quotient 1, ?_, ?_⟩
  · rw [pageCountInWords?, hquotient, Option.map_some]
  · have hmax : (max quotient 1).toNat = max quotient.toNat 1 := UInt64.toNat_max quotient 1
    rw [hmax, hvalue, hsize]
    rfl

/-- No step leaves the range of words, whatever page is asked for and however large a page is, as
long as the commands can be counted in a signed word. -/
theorem placeInWords?_eq (requested : Int64) {count : UInt64} (perPage : UInt64)
    (hcount : (count.toNat : Int) ≤ Int64.maxValue.toInt) :
    ∃ page before, placeInWords? requested count perPage = some (page, before) ∧
      page.toNat =
        Builtin.clampPage requested.toInt (pageCount count.toNat perPage.toNat) ∧
      before.toNat = (page.toNat - 1) * max perPage.toNat 1 := by
  obtain ⟨pages, hpages, hvalue⟩ := pageCountInWords?_eq count perPage
  have hfirst := one_le_pageCount count.toNat perPage.toNat
  have hle := pageCount_le_count count.toNat perPage.toNat
  have hmax : (1 : Int) ≤ Int64.maxValue.toInt := by decide
  have hsigned : pages.toInt64.toInt = pages.toNat := toInt_toInt64 (by omega)
  have hone : (1 : Int64).toInt = 1 := by decide
  have hbounds : (1 : Int64).toInt ≤ pages.toInt64.toInt := by omega
  obtain ⟨near, hnear, hplace⟩ := nearest?_eq requested hbounds
  have hpage : near.toUInt64.toNat =
      Builtin.clampPage requested.toInt (pageCount count.toNat perPage.toNat) := by
    rw [toNat_toUInt64 (by omega), hplace, hsigned, hone, hvalue]
    rfl
  have hrange := clampPage_mem_range requested.toInt hfirst
  rw [← hpage] at hrange
  obtain ⟨previous, hprevious, hdifference⟩ := difference?_eq (b := 1) hrange.1
  have hsize : (max perPage 1).toNat = max perPage.toNat 1 := UInt64.toNat_max perPage 1
  have hroom : previous.toNat * (max perPage 1).toNat < UInt64.size := by
    rw [hdifference, hsize, UInt64.toNat_one]
    exact Nat.lt_of_le_of_lt (before_le hrange.2) count.toNat_lt_size
  obtain ⟨before, hbefore, hproduct⟩ := product?_eq hroom
  refine ⟨near.toUInt64, before, ?_, hpage, ?_⟩
  · simp only [placeInWords?, hpages, hnear, hprevious, hbefore, bind, Option.bind, pure]
  · rw [hproduct, hdifference, hsize, UInt64.toNat_one]

end Help

namespace Builtin

variable {η : Type}

theorem clampPage_of_le {page pages : Nat} (hfirst : 1 ≤ page) (hpage : page ≤ pages) :
    clampPage page pages = page := by
  unfold clampPage
  omega

theorem askHelp_of_page (perPage : Nat) (snapshot : Snapshot η) (actor : Actor) (sign : Char)
    {word : String} {number : Int64} (h : Text.int64? word = some number) :
    askHelp perPage snapshot actor sign [word] =
      let commands := snapshot.visibleTo actor
      let pages := Help.pageCount commands.length (max perPage 1)
      answer (Help.listing commands (clampPage number.toInt pages) (max perPage 1) sign) := by
  rw [askHelp_eq]
  simp only [helpText, h, helpListing, visible_entries]
  rfl

/-- A single number is answered with the nearest page of the visible commands, so each page is shown
for its own number. The text of a page shows the commands on it, line by line. The pages divide the
commands, and counting in words finds the same page. -/
theorem help_pages (perPage : Nat) (snapshot : Snapshot η) (actor : Actor) (sign : Char) :
    let commands := snapshot.visibleTo actor
    let size := max perPage 1
    let pages := Help.pageCount commands.length size
    (∀ word number, Text.int64? word = some number →
      askHelp perPage snapshot actor sign [word] =
        answer (Help.listing commands (clampPage number.toInt pages) size sign)) ∧
    (∀ page, 1 ≤ page → page ≤ pages → (page : Int) ≤ Int64.maxValue.toInt →
      askHelp perPage snapshot actor sign [toString page] =
        answer (Help.listing commands page size sign)) ∧
    (∀ page, Help.IsListing (Help.listing commands page size sign)
      (Help.onPage commands page size) page pages sign) ∧
    Help.Divides commands size pages ∧
    ∀ (number : Int64) (perPageWord : UInt64), perPageWord.toNat = perPage →
      (commands.length : Int) ≤ Int64.maxValue.toInt →
      ∃ page before,
        Help.placeInWords? number (UInt64.ofNat commands.length) perPageWord =
          some (page, before) ∧
        page.toNat = clampPage number.toInt pages ∧
        Help.onPage commands page.toNat size = (commands.drop before.toNat).take size := by
  intro commands size pages
  have hsize : 1 ≤ size := Nat.le_max_right perPage 1
  refine ⟨?number, ?page, ?text, Help.divides_pageCount commands hsize, ?words⟩
  case number =>
    intro word number h
    exact askHelp_of_page perPage snapshot actor sign h
  case page =>
    intro page hfirst hpage hlt
    rw [askHelp_of_page perPage snapshot actor sign (Text.int64?_toString hlt),
      Help.toInt_ofNat hlt]
    exact congrArg (fun shown => answer (Help.listing commands shown size sign))
      (clampPage_of_le hfirst hpage)
  case text =>
    intro page
    exact Help.isListing_listing commands page size sign
  case words =>
    intro number perPageWord hword hlength
    have hcount : (UInt64.ofNat commands.length).toNat = commands.length :=
      UInt64.toNat_ofNat_of_lt (Help.lt_size_of_le_maxValue hlength)
    obtain ⟨page, before, hplace, hpage, hbefore⟩ :=
      Help.placeInWords?_eq number perPageWord (by rwa [hcount])
    rw [hcount, hword, ← Help.pageCount_max] at hpage
    rw [hword] at hbefore
    refine ⟨page, before, hplace, hpage, ?_⟩
    rw [Help.onPage, Nat.max_eq_left hsize, hbefore]

/-- Two visible commands, set up with no command a page, take two pages, and a number that is too
large is answered with the second. One page of twenty holds both. -/
theorem help_pages_files :
    let list := fileCommand "list" "Files"
    let read := fileCommand "read" "Files"
    let actor : Actor := { user := 1, channel := 2 }
    Text.int64? "99" = some 99 ∧
      askHelp 0 filesSnapshot actor '!' ["99"] =
        answer (Help.listing [list, read] 2 1 '!') ∧
      askHelp 20 filesSnapshot actor '!' ["99"] =
        answer (Help.listing [list, read] 1 20 '!') ∧
      ∃ page before, Help.placeInWords? 99 2 20 = some (page, before) ∧ page.toNat = 1 ∧
        Help.onPage [list, read] page.toNat 20 = ([list, read].drop before.toNat).take 20 := by
  intro list read actor
  have hnumber : Text.int64? "99" = some 99 := rfl
  have hvisible : filesSnapshot.visibleTo actor = [list, read] := rfl
  have hsecond : clampPage (99 : Int64).toInt (Help.pageCount 2 (max 0 1)) = 2 := by decide
  have honly : clampPage (99 : Int64).toInt (Help.pageCount 2 (max 20 1)) = 1 := by decide
  have hnone := help_pages 0 filesSnapshot actor '!'
  have htwenty := help_pages 20 filesSnapshot actor '!'
  rw [hvisible] at hnone htwenty
  have hlast := hnone.1 "99" 99 hnumber
  have hboth := htwenty.1 "99" 99 hnumber
  have hwords := htwenty.2.2.2.2 99 20 rfl (by decide)
  simp only [List.length_cons, List.length_nil, Nat.zero_add, Nat.reduceAdd] at hlast hboth hwords
  rw [hsecond] at hlast
  rw [honly] at hboth hwords
  exact ⟨hnumber, hlast, hboth, hwords⟩

end Builtin

end ChatWarden
