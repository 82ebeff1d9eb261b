import Mathlib.Data.List.TakeWhile
import ImageChain.Codec.Plain
import ImageChain.Offline
import ImageChain.Proofs.Source.Recording

/-!
# The server that a web address names

A lookup in a web source writes the text of the caller behind the base address
of a host, and nothing stands between the two.  Where the host's name ends is
therefore up to the text: it may add to the name, or make it the user name of
another server.

`asked_web` says which server a lookup asks, and exactly when that is one of
those the source was given.  A text that is empty or begins with a slash, a
question mark or a number sign always is, and `asked_foreign_server` is one that
is not.
-/

namespace ImageChain.Upstream

/-! ## Authorities -/

/-- Whether a character ends the authority of a web address. -/
def endsAuthority (c : Char) : Bool :=
  c == '/' || c == '?' || c == '#'

/-- The characters before the path, the query and the fragment. -/
def beforePath (text : List Char) : List Char :=
  text.takeWhile fun c => !endsAuthority c

/-- The characters after the last at sign. -/
def withoutUser (text : List Char) : List Char :=
  (text.reverse.takeWhile (· != '@')).reverse

/-- The server that a web address names. -/
def authority? (url : String) : Option String :=
  (splitScheme url.toList).map fun (_, rest) => String.ofList (withoutUser (beforePath rest))

private theorem forall_ne_at {text : List Char} (hmem : '@' ∉ text) :
    ∀ c ∈ text.reverse, (c != '@') = true := by
  intro c hc
  rw [bne_iff_ne]
  rintro rfl
  exact hmem (List.mem_reverse.mp hc)

theorem withoutUser_of_notMem {text : List Char} (hmem : '@' ∉ text) : withoutUser text = text := by
  rw [withoutUser, List.takeWhile_eq_self_iff.mpr (forall_ne_at hmem), List.reverse_reverse]

theorem withoutUser_append (user : List Char) {name : List Char} (hmem : '@' ∉ name) :
    withoutUser (user ++ '@' :: name) = name := by
  have hreverse : (user ++ '@' :: name).reverse = name.reverse ++ '@' :: user.reverse := by simp
  rw [withoutUser, hreverse, List.takeWhile_append_of_pos (forall_ne_at hmem),
    List.takeWhile_cons_of_neg (by simp), List.append_nil, List.reverse_reverse]

/-- A text with an at sign has a last one. -/
theorem exists_last_at {text : List Char} (hmem : '@' ∈ text) :
    ∃ user name, text = user ++ '@' :: name ∧ '@' ∉ name := by
  obtain ⟨name, user, hreverse, hlast⟩ :=
    List.eq_append_cons_of_mem (List.mem_reverse.mpr hmem)
  refine ⟨user.reverse, name.reverse, ?_, fun h => hlast (List.mem_reverse.mp h)⟩
  rw [← List.reverse_reverse text, hreverse]
  simp

/-! ## Schemes -/

theorem eq_of_splitScheme {text scheme rest : List Char}
    (hsplit : splitScheme text = some (scheme, rest)) :
    text = scheme ++ ':' :: '/' :: '/' :: rest := by
  induction text using splitScheme.induct generalizing scheme with
  | case1 => cases hsplit
  | case2 after =>
      cases hsplit
      rfl
  | case3 c others hprefix ih =>
      rw [splitScheme.eq_3 _ _ hprefix, Option.map_eq_some_iff] at hsplit
      obtain ⟨⟨before, after⟩, hothers, heq⟩ := hsplit
      cases heq
      rw [ih hothers]
      rfl

/-- Whatever follows the first `://`, it is still the first. -/
theorem splitScheme_append {text scheme rest : List Char}
    (hsplit : splitScheme text = some (scheme, rest)) (other : List Char) :
    splitScheme (scheme ++ ':' :: '/' :: '/' :: other) = some (scheme, other) := by
  induction text using splitScheme.induct generalizing scheme with
  | case1 => cases hsplit
  | case2 after =>
      cases hsplit
      rfl
  | case3 c others hprefix ih =>
      rw [splitScheme.eq_3 _ _ hprefix, Option.map_eq_some_iff] at hsplit
      obtain ⟨⟨before, after⟩, hothers, heq⟩ := hsplit
      cases heq
      have hnot : ∀ tail, c = ':' → before ++ ':' :: '/' :: '/' :: other = '/' :: '/' :: tail →
          False := by
        intro tail hc htail
        -- two slashes at the front of what was after the colon would have ended the scheme there
        have hothers := eq_of_splitScheme hothers
        match before, htail with
        | first :: second :: before, htail =>
            simp only [List.cons_append, List.cons.injEq] at htail
            obtain ⟨rfl, rfl, -⟩ := htail
            exact hprefix _ hc hothers
      rw [List.cons_append, splitScheme.eq_3 _ _ hnot, ih hothers]
      rfl

/-! ## Hosts -/

/-- The names of the hosts in the address of a web source. -/
def hostNames (uri : String) : List (List Char) :=
  ((splitScheme uri.toList).map fun (_, rest) =>
    parseHosts (rest.takeWhile fun c => !endsHosts c)).getD []

/-- A host that is written as a name, or as a name and a port. -/
def IsPlain (host : List Char) : Prop :=
  '@' ∉ host ∧ ∀ c ∈ host, endsAuthority c = false

/-- Where the paths of a host begin. -/
def baseUrlOf (scheme host : List Char) : String :=
  String.ofList (scheme ++ ':' :: '/' :: '/' :: host)

theorem baseUrl_of_parse {uri : String} {built : Upstream} (hparse : parse uri = .ok built) :
    ∃ scheme rest, splitScheme uri.toList = some (scheme, rest) ∧
      built.hosts.map (·.baseUrl) = (hostNames uri).map (baseUrlOf scheme) := by
  unfold parse at hparse
  cases hsplit : splitScheme uri.toList with
  | none =>
      rw [hsplit] at hparse
      cases hparse
  | some parts =>
      obtain ⟨scheme, rest⟩ := parts
      rw [hsplit] at hparse
      dsimp only at hparse
      split at hparse
      · cases hparse
      · cases hparse
        refine ⟨scheme, rest, rfl, ?_⟩
        simp [hostNames, hsplit, baseUrlOf]

/-- A text behind the name of a plain host only matters up to where the authority ends. -/
theorem authority?_append {text scheme rest : List Char}
    (hsplit : splitScheme text = some (scheme, rest)) {host : List Char} (hplain : IsPlain host)
    (request : String) :
    authority? (baseUrlOf scheme host ++ request) =
      some (String.ofList (withoutUser (host ++ beforePath request.toList))) := by
  have hurl : (baseUrlOf scheme host ++ request).toList =
      scheme ++ ':' :: '/' :: '/' :: (host ++ request.toList) := by
    simp [baseUrlOf, String.toList_append]
  have hbefore : beforePath (host ++ request.toList) = host ++ beforePath request.toList :=
    List.takeWhile_append_of_pos fun c hc => by rw [hplain.2 c hc]; rfl
  rw [authority?, hurl, splitScheme_append hsplit, ← hbefore]
  rfl

/-! ## Lookups -/

theorem mem_of_pick {upstream after : Upstream} {base : String}
    (hpick : upstream.pick = some (base, after)) : base ∈ upstream.healthyHosts := by
  unfold pick at hpick
  dsimp only at hpick
  split at hpick
  · cases hpick
  · next host hget =>
      cases hpick
      exact List.mem_of_getElem? hget

theorem healthyHosts_subset (upstream : Upstream) :
    upstream.healthyHosts ⊆ upstream.hosts.map (·.baseUrl) :=
  List.map_subset _ (List.filter_sublist.subset)

theorem healthyHosts_of_pick {upstream : Upstream} (hpick : upstream.pick = none) :
    upstream.healthyHosts = [] := by
  unfold pick at hpick
  dsimp only at hpick
  split at hpick
  · next hget =>
      by_contra hne
      have hpositive : 0 < upstream.healthyHosts.length := List.length_pos_iff.mpr hne
      have hbound := List.getElem?_eq_none_iff.mp hget
      have hlt := Nat.mod_lt upstream.cursor hpositive
      omega
  · cases hpick

/-- Parameters or hosts that leave nothing to ask. -/
def Idle (upstream : Upstream) (parameters : List String) : Prop :=
  parameters = [] ∨ (∃ fault, queryUnescape (parameters.headD "") = .error fault) ∨
    upstream.healthyHosts = []

/-- What a lookup in a web source makes of its parameters. -/
theorem web_request_cases (upstream : Upstream) (parameters : List String) :
    (∃ base ∈ upstream.healthyHosts, ∃ text after,
        queryUnescape (parameters.headD "") = .ok text ∧
          (Source.web upstream).request parameters = .ok (.web (base ++ text), after)) ∨
      Idle upstream parameters ∧
        ∃ failure, (Source.web upstream).request parameters = .error failure := by
  dsimp only [Source.request, Source.webRequest]
  cases parameters with
  | nil => exact Or.inr ⟨Or.inl rfl, _, rfl⟩
  | cons first rest =>
      have hcount : requireParameters "http" 1 (first :: rest) = .ok () := by
        simp [requireParameters]
      rw [hcount, List.headD_cons]
      cases htext : queryUnescape first with
      | error fault => exact Or.inr ⟨Or.inr (Or.inl ⟨fault, htext⟩), fault, rfl⟩
      | ok text =>
          cases hpick : upstream.pick with
          | none => exact Or.inr ⟨Or.inr (Or.inr (healthyHosts_of_pick hpick)), _, rfl⟩
          | some picked =>
              obtain ⟨base, after⟩ := picked
              exact Or.inl ⟨base, mem_of_pick hpick, text, .web after, rfl, rfl⟩

/-- What a lookup in a web source requests. -/
theorem requested_web {catalog : Catalog} {place : Nat} {upstream : Upstream}
    (hsource : catalog.sources[place]? = some (.web upstream)) (parameters : List String) :
    (∃ base ∈ upstream.healthyHosts, ∃ text, queryUnescape (parameters.headD "") = .ok text ∧
        catalog.requested place parameters = [.web (base ++ text)]) ∨
      Idle upstream parameters ∧ catalog.requested place parameters = [] := by
  rcases web_request_cases upstream parameters with
    ⟨base, hbase, text, after, htext, hok⟩ | ⟨hidle, failure, herror⟩
  · exact Or.inl ⟨base, hbase, text, htext, by rw [Catalog.requested_of_ok hsource hok]; rfl⟩
  · exact Or.inr ⟨hidle, Catalog.requested_of_error hsource herror⟩

/-! ## The main statement -/

/-- When a text behind the name of a host leaves a server that is one of several. -/
def KeepsTo (names : List (List Char)) (host : List Char) (request : String) : Prop :=
  ('@' ∉ beforePath request.toList ∧ host ++ beforePath request.toList ∈ names) ∨
    ∃ user name, beforePath request.toList = user ++ '@' :: name ∧ '@' ∉ name ∧ name ∈ names

theorem withoutUser_mem_iff {names : List (List Char)} {host : List Char} (hplain : IsPlain host)
    (request : String) :
    withoutUser (host ++ beforePath request.toList) ∈ names ↔ KeepsTo names host request := by
  by_cases hat : '@' ∈ beforePath request.toList
  · obtain ⟨user, name, hbefore, hname⟩ := exists_last_at hat
    have hserver : withoutUser (host ++ beforePath request.toList) = name := by
      rw [hbefore, ← List.append_assoc, withoutUser_append _ hname]
    rw [hserver]
    constructor
    · intro hmem
      exact Or.inr ⟨user, name, hbefore, hname, hmem⟩
    · rintro (⟨hnone, -⟩ | ⟨other, last, hother, hlast, hmem⟩)
      · exact absurd hat hnone
      · -- both names are what is left without the user
        have hsame := withoutUser_append other hlast
        rw [← hother, hbefore, withoutUser_append user hname] at hsame
        rwa [hsame]
  · have hnone : '@' ∉ host ++ beforePath request.toList := by
      rw [List.mem_append, not_or]
      exact ⟨hplain.1, hat⟩
    rw [withoutUser_of_notMem hnone]
    constructor
    · intro hmem
      exact Or.inl ⟨hat, hmem⟩
    · rintro (⟨-, hmem⟩ | ⟨user, name, hbefore, -, -⟩)
      · exact hmem
      · exact absurd (by rw [hbefore]; exact List.mem_append_right _ List.mem_cons_self) hat

/-- The address that a lookup asks for, and the server that it names. -/
structure Addressed (uri : String) (upstream : Upstream) (request url : String)
    (host server : List Char) : Prop where
  /-- The host is one of those the source was given. -/
  configured : host ∈ hostNames uri
  /-- The address is that of a healthy host with the caller's text behind it. -/
  glued : ∃ base ∈ upstream.healthyHosts, url = base ++ request
  /-- What the address names is a server. -/
  named : authority? url = some (String.ofList server)
  /-- This is exactly when the server is one of those the source was given. -/
  server_mem_iff : server ∈ hostNames uri ↔ KeepsTo (hostNames uri) host request
  /-- A text that ends the authority at once leaves the host as it is. -/
  server_eq : beforePath request.toList = [] → server = host

/-- **A lookup in a web source asks one server, and the caller's text decides whether it is one of
the source's hosts.**  The source is in any state of health. -/
theorem asked_web [Codecs] {uri : String} {built upstream : Upstream}
    (hparse : parse uri = .ok built)
    (hplain : ∀ host ∈ hostNames uri, IsPlain host)
    (hhosts : upstream.hosts.map (·.baseUrl) = built.hosts.map (·.baseUrl))
    {catalog : Catalog} {place : Nat} (hsource : catalog.sources[place]? = some (.web upstream))
    (world : List Request → Backends Id) (parameters : List String) (log : List Request) :
    (Idle upstream parameters ∧ catalog.askedBy world place parameters log = log) ∨
      ∃ request url host server, queryUnescape (parameters.headD "") = .ok request ∧
        catalog.askedBy world place parameters log = log ++ [.web url] ∧
        Addressed uri upstream request url host server := by
  rw [catalog.askedBy_eq world place parameters log]
  rcases requested_web hsource parameters with
    ⟨base, hbase, request, hrequest, hasked⟩ | ⟨hidle, hnone⟩
  · obtain ⟨scheme, rest, hsplit, hbuilt⟩ := baseUrl_of_parse hparse
    have hmem := healthyHosts_subset upstream hbase
    rw [hhosts, hbuilt, List.mem_map] at hmem
    obtain ⟨host, hhost, rfl⟩ := hmem
    refine Or.inr ⟨request, _, host, withoutUser (host ++ beforePath request.toList), hrequest,
      by rw [hasked], ?_⟩
    exact
      { configured := hhost
        glued := ⟨_, hbase, rfl⟩
        named := authority?_append hsplit (hplain host hhost) request
        server_mem_iff := withoutUser_mem_iff (hplain host hhost) request
        server_eq := fun hempty => by
          rw [hempty, List.append_nil, withoutUser_of_notMem (hplain host hhost).1] }
  · exact Or.inl ⟨hidle, by rw [hnone, List.append_nil]⟩

/-- Two hosts of which the second one answered its last check, and a text that begins with a
slash. -/
theorem asked_web_healthy_host :
    ∃ (built upstream : Upstream) (world : List Request → Backends Id),
      parse "http://a:1,b:2/ping" = .ok built ∧ upstream = (built.observe 1 true).1 ∧
        (∀ host ∈ hostNames "http://a:1,b:2/ping", IsPlain host) ∧
        (Idle upstream ["/x.png"] ∧
            Catalog.askedBy ⟨#[.web upstream]⟩ world 0 ["/x.png"] [] = [] ∨
          ∃ request url host server, queryUnescape (["/x.png"].headD "") = .ok request ∧
            Catalog.askedBy ⟨#[.web upstream]⟩ world 0 ["/x.png"] [] = [] ++ [.web url] ∧
            Addressed "http://a:1,b:2/ping" upstream request url host server) := by
  have hparse : parse "http://a:1,b:2/ping" =
      .ok ⟨[⟨"http://a:1", false⟩, ⟨"http://b:2", false⟩], "/ping", 0⟩ := rfl
  have hnames : hostNames "http://a:1,b:2/ping" = ["a:1".toList, "b:2".toList] := by decide
  have hplain : ∀ host ∈ hostNames "http://a:1,b:2/ping", IsPlain host := by
    simp [hnames, IsPlain, endsAuthority]
  refine ⟨_, ⟨[⟨"http://a:1", false⟩, ⟨"http://b:2", true⟩], "/ping", 0⟩,
    fun _ => .offline fun _ => .error "closed", hparse, rfl, hplain, ?_⟩
  refine asked_web hparse hplain ?hosts ?source _ ["/x.png"] []
  case hosts => rfl
  case source => rfl

/-- A text that makes the host a user name of another server. -/
theorem asked_foreign_server :
    ∃ (built : Upstream) (world : List Request → Backends Id),
      parse "http://a:1/ping" = .ok built ∧
        (∀ host ∈ hostNames "http://a:1/ping", IsPlain host) ∧
        Catalog.askedBy ⟨#[.web (built.observe 0 true).1]⟩ world 0 ["@b:2/x.png"] [] =
          [.web "http://a:1@b:2/x.png"] ∧
        authority? "http://a:1@b:2/x.png" = some "b:2" ∧
        "b:2".toList ∉ hostNames "http://a:1/ping" := by
  have hnames : hostNames "http://a:1/ping" = ["a:1".toList] := by decide
  have hplain : ∀ host ∈ hostNames "http://a:1/ping", IsPlain host := by
    simp [hnames, IsPlain, endsAuthority]
  refine ⟨⟨[⟨"http://a:1", false⟩], "/ping", 0⟩, fun _ => .offline fun _ => .error "closed", rfl,
    hplain, ?asked, ?authority, ?foreign⟩
  case asked =>
    rw [Catalog.askedBy_eq, List.nil_append]
    rfl
  case authority => decide
  case foreign => decide

end ImageChain.Upstream
