import AdAway.Git.GitHostsSource
import AdAway.Library.QueryString
import AdAway.Source.SourceModel
import Mathlib.Data.List.DropRight
import Mathlib.Tactic.MkIffOfInductiveProp

/-!
# The call of the commits API

The address of the API call is put together from parts of the path of the URL, as they are written
there. Behind the path this is right: a part of a path stays one. The path of the file becomes a
parameter of a query, though, where more characters have a meaning.

## Main definitions

* `IsSegment` — a part of the path of a URL
* `CarriesParameter` — what a parameter of the call owes
* `CarriesGitHub`, `CarriesGitLab` — what the call owes

## Main results

* `splitPath_joinPath` — the parts of a path put together
* `commitApi_iff` — which URLs have a source, and which calls carry their path
-/

namespace AdAway

/-! ### The parts of a path -/

/-- A part of the path of a URL. -/
@[mk_iff]
structure IsSegment (s : String) : Prop where
  ne_empty : s ≠ ""
  slash : '/' ∉ s.toList
  query : '?' ∉ s.toList
  fragment : '#' ∉ s.toList

instance (s : String) : Decidable (IsSegment s) := decidable_of_iff _ (isSegment_iff s).symm

/-- The part has no character that a query gives a meaning. -/
def QueryPlain (s : String) : Prop := '&' ∉ s.toList ∧ '+' ∉ s.toList

instance (s : String) : Decidable (QueryPlain s) := by unfold QueryPlain; infer_instance

section Parts

variable {parts : List String}

theorem toList_joinPath (parts : List String) :
    (joinPath parts).toList = ['/'].intercalate (parts.map String.toList) :=
  String.toList_intercalate

/-- The characters of a path are those of its parts, and separators. -/
theorem not_mem_joinPath_iff {c : Char} (hc : c ≠ '/') :
    c ∉ (joinPath parts).toList ↔ ∀ s ∈ parts, c ∉ s.toList := by
  rw [toList_joinPath, QueryString.not_mem_intercalate_iff hc, List.forall_mem_map]

/-- **The parts of a path put together** are the parts it is split into, behind an empty one. -/
theorem splitPath_joinPath (hne : parts ≠ []) (h : ∀ s ∈ parts, IsSegment s) :
    splitPath ("/" ++ joinPath parts) = "" :: parts := by
  have hlist : ("/" ++ joinPath parts).toList = [] ++ '/' :: ['/'].intercalate
      (parts.map String.toList) := by
    rw [String.toList_append, toList_joinPath]
    rfl
  have hsplit : ("/" ++ joinPath parts).toList.splitOn '/' = [] :: parts.map String.toList := by
    rw [hlist, List.splitOn_append_cons_self_of_not_mem List.not_mem_nil,
      List.splitOn_intercalate '/' ?_ (by simpa using hne)]
    intro l hl
    obtain ⟨s, hs, rfl⟩ := List.mem_map.mp hl
    exact (h s hs).slash
  have hlast : ((([] : List Char) :: parts.map String.toList).reverse.dropWhile
      List.isEmpty).reverse = [] :: parts.map String.toList := by
    refine List.rdropWhile_eq_self_iff.mpr fun _ => ?_
    rw [List.getLast_cons (by simpa using hne), List.getLast_map]
    simpa using (h _ (List.getLast_mem hne)).ne_empty
  rw [splitPath, if_pos (by rw [hlist]; simp), hsplit, hlast, List.map_cons, List.map_map]
  simp

end Parts

/-! ### The calls -/

/-- The query of the URL has a parameter that is the text, as it is written and as a server reads
it: what stands for a byte in a path stands for it in the parameter. -/
structure CarriesParameter (url name text : String) : Prop where
  written : QueryString.value? name.toList (QueryString.query url.toList) = some text.toList
  read : QueryString.formDecode text.toList = QueryString.percentDecode text.toList

namespace GitHostsSource

/-- The URL has a source, and the call to GitHub carries the owner, the repository and the path. -/
def CarriesGitHub (getPath : String → Option String) (url owner repo : String)
    (path : List String) : Prop :=
  ∃ source, getSource getPath url = .ok source ∧
    QueryString.pathParts source.getCommitApiUrl.toList =
      ["repos", owner, repo, "commits"].map String.toList ∧
    CarriesParameter source.getCommitApiUrl "path" (joinPath path)

/-- The URL has a source, and the call to GitLab carries the owner and the repository as one part,
the path and the ref. -/
def CarriesGitLab (getPath : String → Option String) (url owner repo ref : String)
    (path : List String) : Prop :=
  ∃ source, getSource getPath url = .ok source ∧
    QueryString.pathParts source.getCommitApiUrl.toList =
      ["api", "v4", "projects", owner ++ "%2F" ++ repo, "repository", "commits"].map
        String.toList ∧
    QueryString.percentDecode (owner ++ "%2F" ++ repo).toList =
      QueryString.percentDecode (owner ++ "/" ++ repo).toList ∧
    CarriesParameter source.getCommitApiUrl "path" (joinPath path) ∧
    CarriesParameter source.getCommitApiUrl "ref_name" ref

variable {getPath : String → Option String} {owner repo ref : String} {path : List String}

theorem startsWith_append (s t : String) : startsWith (s ++ t) s = true := by
  rw [startsWith, String.toList_append, List.isPrefixOf_iff_prefix]
  exact List.prefix_append _ _

/-- The source of a file on GitHub. -/
theorem getSource_gitHub (hpath : path ≠ [])
    (h : ∀ s ∈ owner :: repo :: ref :: path, IsSegment s) {rest : String}
    (hget : getPath (githubRepoUrl ++ rest) =
      some ("/" ++ joinPath (owner :: repo :: ref :: path))) :
    getSource getPath (githubRepoUrl ++ rest) = .ok (.gitHub owner repo (joinPath path)) := by
  have hlength : 0 < path.length := List.length_pos_of_ne_nil hpath
  rw [getSource]
  dsimp only
  rw [if_pos (startsWith_append _ _), hget]
  dsimp only
  rw [newGitHub, splitPath_joinPath (by simp) h]
  rw [if_neg (by simp; omega)]
  rfl

/-- The source of a file on GitLab. -/
theorem getSource_gitLab {raw : String}
    (h : ∀ s ∈ owner :: repo :: raw :: ref :: path, IsSegment s) {rest : String}
    (hget : getPath (gitlabUrl ++ rest) =
      some ("/" ++ joinPath (owner :: repo :: raw :: ref :: path))) :
    getSource getPath (gitlabUrl ++ rest) = .ok (.gitLab owner repo ref (joinPath path)) := by
  have hnot : ∀ url : String, startsWith (gitlabUrl ++ rest) url =
      (url.toList.isPrefixOf (gitlabUrl.toList ++ rest.toList)) := by
    intro url
    rw [startsWith, String.toList_append]
  rw [getSource]
  dsimp only
  rw [if_neg (by rw [hnot]; simp [githubRepoUrl, gitlabUrl]),
    if_neg (by rw [hnot]; simp [githubGistUrl, gitlabUrl]), if_pos (startsWith_append _ _), hget]
  dsimp only
  rw [newGitLab, splitPath_joinPath (by simp) h]
  rw [if_neg (by simp)]
  rfl

/-- The call to GitHub, by its path and its query. -/
theorem toList_commitApiUrl_gitHub (blobPath : String) :
    (gitHub owner repo blobPath).getCommitApiUrl.toList =
      ['/'].intercalate (["https:", "", "api.github.com", "repos", owner, repo, "commits"].map
        String.toList) ++ '?' :: ("per_page=1".toList ++ '&' :: ("path".toList ++ '=' ::
          blobPath.toList)) := by
  have hbefore : "https://api.github.com/repos/".toList = "https:".toList ++ '/' :: ("".toList ++
      '/' :: ("api.github.com".toList ++ '/' :: ("repos".toList ++ ['/']))) := by decide
  have hafter : "/commits?per_page=1&path=".toList = '/' :: ("commits".toList ++ '?' ::
      ("per_page=1".toList ++ '&' :: ("path".toList ++ ['=']))) := by decide
  have hsep : "/".toList = ['/'] := by decide
  show ("https://api.github.com/repos/" ++ owner ++ "/" ++ repo ++ "/commits?per_page=1&path=" ++
    blobPath).toList = _
  simp only [String.toList_append, hbefore, hafter, hsep, List.map_cons, List.map_nil,
    List.intercalate_cons_cons, List.intercalate_singleton, List.append_assoc, List.cons_append,
    List.nil_append]

/-- The call to GitLab, by its path and its query. -/
theorem toList_commitApiUrl_gitLab (path : String) :
    (gitLab owner repo ref path).getCommitApiUrl.toList =
      ['/'].intercalate (["https:", "", "gitlab.com", "api", "v4", "projects",
        owner ++ "%2F" ++ repo, "repository", "commits"].map String.toList) ++
        '?' :: ("path".toList ++ '=' :: path.toList ++ '&' :: ("ref_name".toList ++ '=' ::
          ref.toList)) := by
  have hbefore : "https://gitlab.com/api/v4/projects/".toList = "https:".toList ++ '/' ::
      ("".toList ++ '/' :: ("gitlab.com".toList ++ '/' :: ("api".toList ++ '/' :: ("v4".toList ++
        '/' :: ("projects".toList ++ ['/']))))) := by decide
  have hafter : "/repository/commits?path=".toList = '/' :: ("repository".toList ++ '/' ::
      ("commits".toList ++ '?' :: ("path".toList ++ ['=']))) := by decide
  have href : "&ref_name=".toList = '&' :: ("ref_name".toList ++ ['=']) := by decide
  show ("https://gitlab.com/api/v4/projects/" ++ owner ++ "%2F" ++ repo ++
    "/repository/commits?path=" ++ path ++ "&ref_name=" ++ ref).toList = _
  simp only [String.toList_append, hbefore, hafter, href, List.map_cons, List.map_nil,
    List.intercalate_cons_cons, List.intercalate_singleton, List.append_assoc, List.cons_append,
    List.nil_append]

/-- A parameter that carries its text has none of the characters that a query gives a meaning. -/
theorem queryPlain_of_carriesParameter {url name text : String}
    (h : CarriesParameter url name text) : QueryPlain text :=
  ⟨QueryString.not_mem_of_value? h.written,
    (QueryString.formDecode_eq_percentDecode_iff _).mp h.read⟩

theorem queryPlain_joinPath_iff : QueryPlain (joinPath path) ↔ ∀ s ∈ path, QueryPlain s := by
  simp only [QueryPlain, not_mem_joinPath_iff (by decide : '&' ≠ '/'),
    not_mem_joinPath_iff (by decide : '+' ≠ '/'), forall_and]

theorem fragment_joinPath (h : ∀ s ∈ path, IsSegment s) : '#' ∉ (joinPath path).toList :=
  (not_mem_joinPath_iff (by decide)).mpr fun s hs => (h s hs).fragment

/-- **A call to GitHub** carries the path exactly if no part of it has an `&` or a `+`. -/
theorem carriesGitHub_iff (hpath : path ≠ [])
    (h : ∀ s ∈ owner :: repo :: ref :: path, IsSegment s) {rest : String}
    (hget : getPath (githubRepoUrl ++ rest) =
      some ("/" ++ joinPath (owner :: repo :: ref :: path))) :
    CarriesGitHub getPath (githubRepoUrl ++ rest) owner repo path ↔ ∀ s ∈ path, QueryPlain s := by
  have hsource := getSource_gitHub hpath h hget
  simp only [List.forall_mem_cons] at h
  obtain ⟨howner, hrepo, -, hsegments⟩ := h
  constructor
  · rintro ⟨source, hsource', -, hcarries⟩
    obtain rfl := Except.ok.inj (hsource.symm.trans hsource')
    exact queryPlain_joinPath_iff.mp (queryPlain_of_carriesParameter hcarries)
  · intro hplain
    obtain ⟨hand, hplus⟩ := queryPlain_joinPath_iff.mpr hplain
    have hparts : ∀ part ∈ ["https:", "", "api.github.com", "repos", owner, repo, "commits"].map
        String.toList, '/' ∉ part ∧ '?' ∉ part ∧ '#' ∉ part := by
      simp only [List.forall_mem_map, List.forall_mem_cons]
      exact ⟨by decide, by decide, by decide, by decide,
        ⟨howner.slash, howner.query, howner.fragment⟩,
        ⟨hrepo.slash, hrepo.query, hrepo.fragment⟩, by decide, nofun⟩
    have hfragment := fragment_joinPath hsegments
    refine ⟨_, hsource, ?_, ?_, (QueryString.formDecode_eq_percentDecode_iff _).mpr hplus⟩
    · rw [toList_commitApiUrl_gitHub, QueryString.pathParts_append (by simp) hparts]
      rfl
    · have hrest : '#' ∉ "per_page=1".toList ++ '&' :: ("path".toList ++ '=' ::
          (joinPath path).toList) := by
        have hperPage : '#' ∉ "per_page=1".toList := by decide
        have hname : '#' ∉ "path".toList := by decide
        simp only [List.mem_append, List.mem_cons, not_or]
        exact ⟨hperPage, by decide, hname, by decide, hfragment⟩
      rw [toList_commitApiUrl_gitHub, QueryString.query_append hparts hrest,
        QueryString.value?_of_not_prefix (by decide) (by decide),
        QueryString.value?_last (by decide) hand]

/-- The project of a call to GitLab is the owner and the repository, as one part of a path. -/
theorem percentDecode_project (owner repo : String) :
    QueryString.percentDecode (owner ++ "%2F" ++ repo).toList =
      QueryString.percentDecode (owner ++ "/" ++ repo).toList := by
  have hescape : (owner ++ "%2F" ++ repo).toList =
      owner.toList ++ '%' :: '2' :: 'F' :: repo.toList := by
    simp
  have hslash : (owner ++ "/" ++ repo).toList = owner.toList ++ '/' :: repo.toList := by
    simp
  have hnoDigit : ∀ c : Char, QueryString.hexDigit? c = none → ∀ cs : List Char,
      ∀ d ∈ (c :: cs).head?, QueryString.hexDigit? d = none := by
    intro c hc cs d hd
    obtain rfl := Option.some.inj hd
    exact hc
  have hbytes : QueryString.percentDecode ('%' :: '2' :: 'F' :: repo.toList) =
      QueryString.percentDecode ('/' :: repo.toList) := by
    rw [QueryString.percentDecode_escape (rfl : QueryString.hexDigit? '2' = some 2)
      (rfl : QueryString.hexDigit? 'F' = some 15),
      QueryString.percentDecode_cons_of_ne (by decide)]
    rfl
  rw [hescape, hslash, QueryString.percentDecode_append _ (hnoDigit '%' rfl _),
    QueryString.percentDecode_append _ (hnoDigit '/' rfl _), hbytes]

/-- **A call to GitLab** carries the path and the ref exactly if neither has an `&` or a `+`. -/
theorem carriesGitLab_iff {raw : String}
    (h : ∀ s ∈ owner :: repo :: raw :: ref :: path, IsSegment s) {rest : String}
    (hget : getPath (gitlabUrl ++ rest) =
      some ("/" ++ joinPath (owner :: repo :: raw :: ref :: path))) :
    CarriesGitLab getPath (gitlabUrl ++ rest) owner repo ref path ↔
      ∀ s ∈ ref :: path, QueryPlain s := by
  have hsource := getSource_gitLab h hget
  simp only [List.forall_mem_cons] at h ⊢
  obtain ⟨howner, hrepo, -, href, hsegments⟩ := h
  constructor
  · rintro ⟨source, hsource', -, -, hcarriesPath, hcarriesRef⟩
    obtain rfl := Except.ok.inj (hsource.symm.trans hsource')
    exact ⟨queryPlain_of_carriesParameter hcarriesRef,
      queryPlain_joinPath_iff.mp (queryPlain_of_carriesParameter hcarriesPath)⟩
  · rintro ⟨⟨hrefAnd, hrefPlus⟩, hplain⟩
    obtain ⟨hand, hplus⟩ := queryPlain_joinPath_iff.mpr hplain
    have hproject : ∀ c : Char, c ∉ "%2F".toList → c ∉ owner.toList → c ∉ repo.toList →
        c ∉ (owner ++ "%2F" ++ repo).toList := by
      intro c hc howner hrepo
      rw [String.toList_append, String.toList_append, List.mem_append, List.mem_append]
      exact not_or.mpr ⟨not_or.mpr ⟨howner, hc⟩, hrepo⟩
    have hparts : ∀ part ∈ ["https:", "", "gitlab.com", "api", "v4", "projects",
        owner ++ "%2F" ++ repo, "repository", "commits"].map String.toList,
        '/' ∉ part ∧ '?' ∉ part ∧ '#' ∉ part := by
      simp only [List.forall_mem_map, List.forall_mem_cons]
      exact ⟨by decide, by decide, by decide, by decide, by decide, by decide,
        ⟨hproject '/' (by decide) howner.slash hrepo.slash,
          hproject '?' (by decide) howner.query hrepo.query,
          hproject '#' (by decide) howner.fragment hrepo.fragment⟩,
        by decide, by decide, nofun⟩
    have hfragment := fragment_joinPath hsegments
    have hrest : '#' ∉ "path".toList ++ '=' :: (joinPath path).toList ++ '&' ::
        ("ref_name".toList ++ '=' :: ref.toList) := by
      have hname : '#' ∉ "path".toList := by decide
      have hrefName : '#' ∉ "ref_name".toList := by decide
      simp only [List.mem_append, List.mem_cons, not_or]
      exact ⟨⟨hname, by decide, hfragment⟩, by decide, hrefName, by decide, href.fragment⟩
    refine ⟨_, hsource, ?_, percentDecode_project owner repo,
      ⟨?_, (QueryString.formDecode_eq_percentDecode_iff _).mpr hplus⟩,
      ⟨?_, (QueryString.formDecode_eq_percentDecode_iff _).mpr hrefPlus⟩⟩
    · rw [toList_commitApiUrl_gitLab, QueryString.pathParts_append (by simp) hparts]
      rfl
    · rw [toList_commitApiUrl_gitLab, QueryString.query_append hparts hrest,
        QueryString.value?_first (by decide) hand]
    · have hfirst : '&' ∉ "path".toList ++ '=' :: (joinPath path).toList := by
        have hname : '&' ∉ "path".toList := by decide
        simp only [List.mem_append, List.mem_cons, not_or]
        exact ⟨hname, by decide, hand⟩
      rw [toList_commitApiUrl_gitLab, QueryString.query_append hparts hrest,
        QueryString.value?_of_not_prefix hfirst (by rfl),
        QueryString.value?_last (by decide) hrefAnd]

/-! ### Which calls are right -/

theorem getSource_isChecked_iff (getPath : String → Option String) (url : String) :
    (∃ source, getSource getPath url = .ok source) ∨
        getSource getPath url = .error .malformedURL ↔ ¬ ShortGistUrl getPath url := by
  rw [← getSource_eq_arrayIndexOutOfBounds_iff]
  rcases getSource getPath url with (_ | _) | source <;> simp

/-- **The calls of the commits API.** A URL leads to a source or to a `MalformedURLException` unless
it is that of a gist with one part. The call for a file on GitHub carries the owner, the repository
and the path exactly if the path has no `&` and no `+`; the call for a file on GitLab, if the ref
has none either. `java.net.URL` gives the path behind the host. -/
theorem commitApi_iff (getPath : String → Option String) :
    (∀ url, (∃ source, getSource getPath url = .ok source) ∨
        getSource getPath url = .error .malformedURL ↔ ¬ ShortGistUrl getPath url) ∧
    (∀ owner repo ref path, path ≠ [] → (∀ s ∈ owner :: repo :: ref :: path, IsSegment s) →
      getPath (githubRepoUrl ++ joinPath (owner :: repo :: ref :: path)) =
        some ("/" ++ joinPath (owner :: repo :: ref :: path)) →
      (CarriesGitHub getPath (githubRepoUrl ++ joinPath (owner :: repo :: ref :: path)) owner repo
        path ↔ ∀ s ∈ path, QueryPlain s)) ∧
    (∀ owner repo ref path, path ≠ [] →
      (∀ s ∈ owner :: repo :: "raw" :: ref :: path, IsSegment s) →
      getPath (gitlabUrl ++ joinPath (owner :: repo :: "raw" :: ref :: path)) =
        some ("/" ++ joinPath (owner :: repo :: "raw" :: ref :: path)) →
      (CarriesGitLab getPath (gitlabUrl ++ joinPath (owner :: repo :: "raw" :: ref :: path)) owner
        repo ref path ↔ ∀ s ∈ ref :: path, QueryPlain s)) := by
  refine ⟨getSource_isChecked_iff getPath, ?_, ?_⟩
  · intro owner repo ref path hpath h hget
    exact carriesGitHub_iff hpath h hget
  · intro owner repo ref path _ h hget
    exact carriesGitLab_iff h hget

/-- The path of a URL that has neither a query nor a fragment: what stands behind the host. -/
def pathBehindHost (url : String) : Option String :=
  some (String.ofList ((url.toList.drop "https://".length).dropWhile (· ≠ '/')))

theorem commitApi_iff_hosts :
    ((∃ source, getSource pathBehindHost (githubGistUrl ++ "/owner/id/raw/hosts") = .ok source) ∨
      getSource pathBehindHost (githubGistUrl ++ "/owner/id/raw/hosts") = .error .malformedURL) ∧
    CarriesGitHub pathBehindHost (githubRepoUrl ++ joinPath ["owner", "repo", "main", "hosts"])
      "owner" "repo" ["hosts"] ∧
    CarriesGitLab pathBehindHost (gitlabUrl ++ joinPath ["owner", "repo", "raw", "main", "hosts"])
      "owner" "repo" "main" ["hosts"] := by
  obtain ⟨hchecked, hgitHub, hgitLab⟩ := commitApi_iff pathBehindHost
  refine ⟨(hchecked _).mpr ?_, ?_, ?_⟩
  · rintro ⟨-, -, path, hpath, hshort⟩
    obtain rfl : "/owner/id/raw/hosts" = path := Option.some.inj hpath
    exact absurd hshort (by decide)
  · refine (hgitHub "owner" "repo" "main" ["hosts"] ?_ ?_ ?_).mpr ?_ <;> decide
  · refine (hgitLab "owner" "repo" "main" ["hosts"] ?_ ?_ ?_).mpr ?_ <;> decide

/-- A gist without a user leads to an unchecked exception, and a path with an `&` ends there. -/
theorem not_commitApi :
    (¬ ∀ getPath url, isHostedOnGit url = true → (∃ source, getSource getPath url = .ok source) ∨
      getSource getPath url = .error .malformedURL) ∧
    ¬ ∀ getPath owner repo ref path, path ≠ [] →
      (∀ s ∈ owner :: repo :: ref :: path, IsSegment s) →
      getPath (githubRepoUrl ++ joinPath (owner :: repo :: ref :: path)) =
        some ("/" ++ joinPath (owner :: repo :: ref :: path)) →
      CarriesGitHub getPath (githubRepoUrl ++ joinPath (owner :: repo :: ref :: path)) owner repo
        path := by
  constructor
  · intro h
    have hchecked := h (fun _ => some "/gist") "https://gist.githubusercontent.com/gist" (by decide)
    exact (getSource_isChecked_iff _ _).mp hchecked ⟨by decide, by decide, _, rfl, by decide⟩
  · intro h
    have hsegments : ∀ s ∈ ["owner", "repo", "main", "ads&trackers"], IsSegment s := by decide
    have hcarries := h (fun _ => some "/owner/repo/main/ads&trackers") "owner" "repo" "main"
      ["ads&trackers"] (by simp) hsegments (by decide)
    have hplain := (carriesGitHub_iff (by simp) hsegments (by decide)).mp hcarries
    exact absurd (hplain "ads&trackers" List.mem_cons_self) (by decide)

end GitHostsSource

end AdAway
