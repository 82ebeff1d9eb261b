import Mathlib.Data.List.Forall2
import ImageChain.Proofs.Source.Authority
import ImageChain.Proofs.Text.Blank
import ImageChain.Proofs.Text.Fields

/-!
# The hosts that an address lists

The address of a web source is cut four times: at the first `://`, at the first
slash or question mark behind it, at the first question mark of what is left,
and at the commas of what stands between.  `Listing` has the pieces that are
written one behind the other, and `parse_listing` says that exactly these come
back.

Each cut is at the first place where its separator can be, so all that counts is
that the pieces in front of it do not have it.  What comes later may have
anything in it: there may be commas and even another `://` in the path and the
query.
-/

namespace ImageChain.Upstream

/-- An address of a web source, in pieces.  The scheme is `http` or `https`, or any other text
without a colon. -/
structure Listing where
  /-- What stands in front of `://`. -/
  scheme : String
  /-- The texts between the commas, which may have blanks around a host, or be blank. -/
  hosts : List String
  /-- The path that checks ask for. -/
  path : String
  /-- What follows a question mark, if there is one. -/
  query : Option String
  scheme_plain : ':' ∉ scheme.toList
  hosts_plain : ∀ host ∈ hosts, ∀ c ∈ host.toList, c ≠ ',' ∧ c ≠ '/' ∧ c ≠ '?'
  path_rooted : ∀ c ∈ path.toList.head?, c = '/'
  path_plain : '?' ∉ path.toList

namespace Listing

/-- The query with its question mark. -/
def queryText (listing : Listing) : String :=
  match listing.query with
  | none => ""
  | some query => "?" ++ query

/-- The address that the pieces make. -/
def text (listing : Listing) : String :=
  listing.scheme ++ "://" ++ ",".intercalate listing.hosts ++ listing.path ++ listing.queryText

end Listing

/-! ## The scheme -/

theorem splitScheme_of_notMem {scheme : List Char} (hscheme : ':' ∉ scheme) (rest : List Char) :
    splitScheme (scheme ++ ':' :: '/' :: '/' :: rest) = some (scheme, rest) := by
  induction scheme with
  | nil => rfl
  | cons c others ih =>
      obtain ⟨hc, hothers⟩ := not_or.mp (mt List.mem_cons.mpr hscheme)
      have hnot : ∀ tail, c = ':' → others ++ ':' :: '/' :: '/' :: rest = '/' :: '/' :: tail →
          False := fun _ hcolon _ => hc hcolon.symm
      rw [List.cons_append, splitScheme.eq_3 _ _ hnot, ih hothers]
      rfl

theorem splitScheme_eq_none {text : List Char} (hnone : ¬ "://".toList <:+: text) :
    splitScheme text = none := by
  cases hsplit : splitScheme text with
  | none => rfl
  | some parts =>
      obtain ⟨scheme, rest⟩ := parts
      refine absurd ⟨scheme, rest, ?_⟩ hnone
      rw [eq_of_splitScheme hsplit, List.append_assoc]
      rfl

/-! ## The cuts -/

/-- A text is cut where a condition ends to hold. -/
theorem cut_append {p : Char → Bool} {front back : List Char} (hfront : ∀ c ∈ front, p c = true)
    (hback : ∀ c ∈ back.head?, p c = false) :
    (front ++ back).takeWhile p = front ∧ (front ++ back).dropWhile p = back := by
  rw [List.takeWhile_append_of_pos hfront, List.dropWhile_append_of_pos hfront]
  cases back with
  | nil => exact ⟨List.append_nil front, rfl⟩
  | cons c rest =>
      have hc : ¬ p c = true := by simp [hback c rfl]
      rw [List.takeWhile_cons_of_neg hc, List.dropWhile_cons_of_neg hc, List.append_nil]
      exact ⟨rfl, rfl⟩

theorem parseHosts_intercalate {hosts : List (List Char)} (hplain : ∀ host ∈ hosts, ',' ∉ host) :
    parseHosts ([','].intercalate hosts) =
      (hosts.map trimChars).filter fun host => !host.isEmpty := by
  cases hosts with
  | nil => rfl
  | cons host rest =>
      rw [parseHosts, splitChars_eq_splitOn,
        List.splitOn_intercalate ',' hplain (List.cons_ne_nil host rest)]

namespace Listing

variable (listing : Listing)

/-- The list of hosts as it is written. -/
def hostsText : String :=
  ",".intercalate listing.hosts

theorem toList_hostsText :
    listing.hostsText.toList = [','].intercalate (listing.hosts.map String.toList) := by
  rw [hostsText, String.toList_intercalate]
  rfl

theorem endsHosts_of_mem {c : Char} (hc : c ∈ listing.hostsText.toList) : endsHosts c = false := by
  rcases mem_intercalate hc with hcomma | ⟨host, hhost, hc⟩
  · rw [List.mem_singleton.mp hcomma]
    rfl
  · obtain ⟨-, hslash, hquestion⟩ := listing.hosts_plain host hhost c hc
    simp [endsHosts, hslash, hquestion]

/-- What follows the hosts. -/
def rest : List Char :=
  listing.path.toList ++ listing.queryText.toList

theorem toList_text :
    listing.text.toList =
      listing.scheme.toList ++ ':' :: '/' :: '/' :: (listing.hostsText.toList ++ listing.rest) := by
  simp [text, hostsText, rest, String.toList_append]

theorem head_queryText {c : Char} (hc : c ∈ listing.queryText.toList.head?) : c = '?' := by
  rw [queryText] at hc
  cases hquery : listing.query with
  | none => simp [hquery] at hc
  | some query => simpa [hquery, String.toList_append, eq_comm] using hc

theorem head_rest {c : Char} (hc : c ∈ listing.rest.head?) : c = '/' ∨ c = '?' := by
  rw [rest] at hc
  cases hpath : listing.path.toList with
  | nil =>
      rw [hpath, List.nil_append] at hc
      exact Or.inr (listing.head_queryText hc)
  | cons first others =>
      rw [hpath] at hc
      exact Or.inl (listing.path_rooted c (by rwa [hpath]))

theorem cut_hosts :
    (listing.hostsText.toList ++ listing.rest).takeWhile (fun c => !endsHosts c) =
        listing.hostsText.toList ∧
      (listing.hostsText.toList ++ listing.rest).dropWhile (fun c => !endsHosts c) =
        listing.rest := by
  refine cut_append (fun c hc => ?_) (fun c hc => ?_)
  · rw [listing.endsHosts_of_mem hc]
    rfl
  · rcases listing.head_rest hc with rfl | rfl <;> rfl

theorem cut_path : listing.rest.takeWhile (· != '?') = listing.path.toList := by
  refine (cut_append (fun c hc => ?_) (fun c hc => ?_)).1
  · rw [bne_iff_ne]
    rintro rfl
    exact listing.path_plain hc
  · rw [listing.head_queryText hc]
    rfl

/-- The host in each text between commas, which is empty if the text is blank. -/
def names : List String :=
  listing.hosts.map trim

theorem trims_iff_eq_names {names : List String} :
    List.Forall₂ (fun host name => Trims host.toList name.toList) listing.hosts names ↔
      names = listing.names := by
  have htrims (host name : String) : Trims host.toList name.toList ↔ trim host = name := by
    rw [trims_iff, trim, ← String.toList_inj, String.toList_ofList]
  simp only [htrims]
  rw [Listing.names, eq_comm, ← List.forall₂_eq_eq_eq, List.forall₂_map_left_iff]

theorem parseHosts_hostsText :
    parseHosts listing.hostsText.toList =
      (listing.names.filter (· ≠ "")).map String.toList := by
  have hcommas : ∀ host ∈ listing.hosts.map String.toList, ',' ∉ host := by
    intro characters hmem hcomma
    obtain ⟨host, hhost, rfl⟩ := List.mem_map.mp hmem
    exact (listing.hosts_plain host hhost ',' hcomma).1 rfl
  have hnames : (listing.hosts.map String.toList).map trimChars =
      listing.names.map String.toList := by
    simp [names, trim]
  rw [toList_hostsText, parseHosts_intercalate hcommas, hnames, List.filter_map]
  -- a name has no characters exactly if it is the empty text
  refine congrArg (List.map String.toList) (List.filter_congr fun name _ => ?_)
  rw [Function.comp_apply, Bool.eq_iff_iff]
  simp

theorem parse_text :
    parse listing.text =
      if listing.names.filter (· ≠ "") = [] then
        .error (.configuration ("No upstream hosts in " ++ listing.text))
      else
        .ok
          { hosts := (listing.names.filter (· ≠ "")).map fun name =>
              ⟨listing.scheme ++ "://" ++ name, false⟩
            ping := if listing.path = "" then "/" else listing.path
            cursor := 0 } := by
  have hsplit : splitScheme listing.text.toList =
      some (listing.scheme.toList, listing.hostsText.toList ++ listing.rest) := by
    rw [toList_text, splitScheme_of_notMem listing.scheme_plain]
  rw [parse, hsplit]
  dsimp only
  rw [listing.cut_hosts.1, listing.cut_hosts.2, cut_path, parseHosts_hostsText]
  have hbase (name : String) :
      String.ofList (listing.scheme.toList ++ ("://".toList ++ name.toList)) =
        listing.scheme ++ "://" ++ name := by
    simp [← String.toList_inj, String.toList_append]
  simp only [List.isEmpty_iff, List.map_eq_nil_iff, String.toList_eq_nil_iff, List.map_map,
    Function.comp_def, hbase, String.ofList_toList]

end Listing

/-! ## The main statement -/

/-- **The address of a web source gives the hosts that it lists.**  They come in the order in which
they are written, without the blanks around them, and blank ones are left out; no host has been
checked yet.  Nothing of the query is in the path.  An address without hosts, or without `://`, is
refused. -/
theorem parse_listing :
    (∀ listing : Listing, ∃ names : List String,
      List.Forall₂ (fun host name => Trims host.toList name.toList) listing.hosts names ∧
      ((∃ name ∈ names, name ≠ "") → parse listing.text = .ok
        { hosts := (names.filter (· ≠ "")).map fun name =>
            ⟨listing.scheme ++ "://" ++ name, false⟩
          ping := if listing.path = "" then "/" else listing.path
          cursor := 0 }) ∧
      ((∀ name ∈ names, name = "") → parse listing.text =
        .error (.configuration ("No upstream hosts in " ++ listing.text)))) ∧
    ∀ uri : String, ¬ "://".toList <:+: uri.toList →
      parse uri = .error (.configuration ("Invalid upstream URI: " ++ uri)) := by
  refine ⟨fun listing =>
    ⟨listing.names, listing.trims_iff_eq_names.mpr rfl, ?some, ?none⟩, ?invalid⟩
  case some =>
    rintro ⟨name, hmem, hname⟩
    have hne : listing.names.filter (· ≠ "") ≠ [] :=
      List.ne_nil_of_mem (List.mem_filter.mpr ⟨hmem, decide_eq_true hname⟩)
    rw [listing.parse_text, if_neg hne]
  case none =>
    intro hnames
    have hnil : listing.names.filter (· ≠ "") = [] :=
      List.filter_eq_nil_iff.mpr fun name hmem => by simp [hnames name hmem]
    rw [listing.parse_text, if_pos hnil]
  case invalid =>
    intro uri hnone
    rw [parse, splitScheme_eq_none hnone]

/-- Two hosts among four texts, and a query with commas and a second address in it. -/
def twoHostListing : Listing where
  scheme := "https"
  hosts := [" a:1", "", "b:2\t ", " "]
  path := "/ping,x"
  query := some "next=http://c,d?e"
  scheme_plain := by decide
  hosts_plain := by simp
  path_rooted := by simp
  path_plain := by decide

/-- Nothing but blanks between the commas. -/
def blankListing : Listing where
  scheme := "http"
  hosts := ["", " "]
  path := ""
  query := none
  scheme_plain := by decide
  hosts_plain := by simp
  path_rooted := by simp
  path_plain := by decide

theorem parse_listing_two_hosts :
    twoHostListing.text = "https:// a:1,,b:2\t , /ping,x?next=http://c,d?e" ∧
      parse twoHostListing.text =
        .ok ⟨[⟨"https://a:1", false⟩, ⟨"https://b:2", false⟩], "/ping,x", 0⟩ ∧
      parse blankListing.text = .error (.configuration "No upstream hosts in http://, ") ∧
      parse "a:1,b:2" = .error (.configuration "Invalid upstream URI: a:1,b:2") := by
  obtain ⟨hlisted, hinvalid⟩ := parse_listing
  obtain ⟨names, hnames, hok, -⟩ := hlisted twoHostListing
  obtain ⟨blanks, hblanks, -, hrefused⟩ := hlisted blankListing
  have hnames : names = ["a:1", "", "b:2", ""] := twoHostListing.trims_iff_eq_names.mp hnames
  have hblanks : blanks = ["", ""] := blankListing.trims_iff_eq_names.mp hblanks
  have hnone : ¬ "://".toList <:+: "a:1,b:2".toList := by
    intro hinfix
    have hslash : '/' ∈ "a:1,b:2".toList := hinfix.subset (by decide)
    exact absurd hslash (by decide)
  subst hnames hblanks
  exact ⟨rfl, hok ⟨"a:1", by decide, by decide⟩, hrefused (by decide),
    hinvalid "a:1,b:2" hnone⟩

end ImageChain.Upstream
