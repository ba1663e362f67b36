import AdAway.Db.Entity
import Mathlib.Data.List.Basic

/-!
# Sources hosted on Git

For a file hosted on GitHub, as a gist or on GitLab, `GitHostsSource` finds the date of the last
commit through the API of the hosting. The address of the API call is put together from the parts of
the path of the URL.

`java.net.URL` is a parameter: the path it finds in a URL, or none when it throws
`MalformedURLException`. What the API answers is one as well, in the modules that call it.

## Main definitions

* `splitPath` — `String.split("/")`
* `GitHostsSource`, `getSource` — the three kinds of sources, and their constructors
* `getCommitApiUrl` — the address of the API call

## Main results

* `getSource_eq_arrayIndexOutOfBounds_iff` — which URLs leave `getSource` with an unchecked
  exception
-/

namespace AdAway

/-! ### Paths -/

/-- `String.split("/")`: trailing empty parts are dropped, unless there is nothing to split. -/
def splitPath (path : String) : List String :=
  if '/' ∈ path.toList then
    (((path.toList.splitOn '/').reverse.dropWhile List.isEmpty).reverse).map String.ofList
  else [path]

/-- `Collectors.joining("/")`. -/
def joinPath (parts : List String) : String := "/".intercalate parts

example : splitPath "/user/repo/" = ["", "user", "repo"] := by decide

/-! ### The sources -/

/-- `GitHostsSource.GITHUB_REPO_URL`. -/
def githubRepoUrl : String := "https://raw.githubusercontent.com/"

/-- `GitHostsSource.GITHUB_GIST_URL`. -/
def githubGistUrl : String := "https://gist.githubusercontent.com"

/-- `GitHostsSource.GITLAB_URL`. -/
def gitlabUrl : String := "https://gitlab.com/"

/-- The subclasses of `GitHostsSource`, with their fields. -/
inductive GitHostsSource
  /-- `GitHubHostsSource`. -/
  | gitHub (owner repo blobPath : String)
  /-- `GistHostsSource`. -/
  | gist (gistIdentifier : String)
  /-- `GitLabHostsSource`. -/
  | gitLab (owner repo ref path : String)
  deriving DecidableEq, Repr

/-- The exceptions of the constructors. -/
inductive GitException
  | malformedURL
  | arrayIndexOutOfBounds
  deriving DecidableEq, Repr

/-- An array access. -/
def part (pathParts : List String) (i : ℕ) : Except GitException String :=
  match pathParts[i]? with
  | some part => .ok part
  | none => .error .arrayIndexOutOfBounds

namespace GitHostsSource

/-- The constructor of `GitHubHostsSource`, on the path of the URL. -/
def newGitHub (path : String) : Except GitException GitHostsSource :=
  let pathParts := splitPath path
  if pathParts.length < 5 then .error .malformedURL
  else do
    let owner ← part pathParts 1
    let repo ← part pathParts 2
    return .gitHub owner repo (joinPath (pathParts.drop 4))

/-- The constructor of `GistHostsSource`, on the path of the URL. -/
def newGist (path : String) : Except GitException GitHostsSource :=
  let pathParts := splitPath path
  if pathParts.length < 2 then .error .malformedURL
  else do
    let gistIdentifier ← part pathParts 2
    return .gist gistIdentifier

/-- The constructor of `GitLabHostsSource`, on the path of the URL. -/
def newGitLab (path : String) : Except GitException GitHostsSource :=
  let pathParts := splitPath path
  if pathParts.length < 5 then .error .malformedURL
  else do
    let owner ← part pathParts 1
    let repo ← part pathParts 2
    let ref ← part pathParts 4
    return .gitLab owner repo ref (joinPath (pathParts.drop 5))

/-- `GitHostsSource.getSource`. -/
def getSource (getPath : String → Option String) (url : String) :
    Except GitException GitHostsSource :=
  let withPath (new : String → Except GitException GitHostsSource) :=
    match getPath url with
    | none => .error .malformedURL
    | some path => new path
  if startsWith url githubRepoUrl then withPath newGitHub
  else if startsWith url githubGistUrl then withPath newGist
  else if startsWith url gitlabUrl then withPath newGitLab
  else .error .malformedURL

/-- `GitHostsJsonApiSource.getCommitApiUrl`. -/
def getCommitApiUrl : GitHostsSource → String
  | gitHub owner repo blobPath =>
    "https://api.github.com/repos/" ++ owner ++ "/" ++ repo ++ "/commits?per_page=1&path=" ++ blobPath
  | gist gistIdentifier => "https://api.github.com/gists/" ++ gistIdentifier
  | gitLab owner repo ref path =>
    "https://gitlab.com/api/v4/projects/" ++ owner ++ "%2F" ++ repo ++
      "/repository/commits?path=" ++ path ++ "&ref_name=" ++ ref

/-! ### Unchecked exceptions -/

/-- The URL is the one of a gist whose path has one part only: the constructor of `GistHostsSource`
checks for two elements and reads the third. -/
def ShortGistUrl (getPath : String → Option String) (url : String) : Prop :=
  startsWith url githubRepoUrl = false ∧ startsWith url githubGistUrl = true ∧
    ∃ path, getPath url = some path ∧ (splitPath path).length = 2

theorem part_eq_ok {pathParts : List String} {i : ℕ} (h : i < pathParts.length) :
    part pathParts i = .ok pathParts[i] := by
  rw [part, List.getElem?_eq_getElem h]

theorem part_eq_error_iff {pathParts : List String} {i : ℕ} {e : GitException} :
    part pathParts i = .error e ↔ pathParts.length ≤ i ∧ e = .arrayIndexOutOfBounds := by
  rcases Nat.lt_or_ge i pathParts.length with h | h
  · rw [part_eq_ok h]
    exact iff_of_false (by simp) fun ⟨hle, _⟩ => absurd h (by omega)
  · rw [part, List.getElem?_eq_none h]
    simp [h, eq_comm]

theorem newGitHub_ne_arrayIndexOutOfBounds (path : String) :
    newGitHub path ≠ .error .arrayIndexOutOfBounds := by
  rw [newGitHub]
  split
  next => exact nofun
  next h =>
    rw [part_eq_ok (i := 1) (by omega), part_eq_ok (i := 2) (by omega)]
    exact nofun

theorem newGitLab_ne_arrayIndexOutOfBounds (path : String) :
    newGitLab path ≠ .error .arrayIndexOutOfBounds := by
  rw [newGitLab]
  split
  next => exact nofun
  next h =>
    rw [part_eq_ok (i := 1) (by omega), part_eq_ok (i := 2) (by omega),
      part_eq_ok (i := 4) (by omega)]
    exact nofun

theorem newGist_eq_arrayIndexOutOfBounds_iff (path : String) :
    newGist path = .error .arrayIndexOutOfBounds ↔ (splitPath path).length = 2 := by
  rw [newGist]
  split
  next h => exact iff_of_false nofun (by omega)
  next h =>
    rcases Nat.lt_or_ge 2 (splitPath path).length with hlt | hge
    · rw [part_eq_ok hlt]
      exact iff_of_false nofun (by omega)
    · rw [part_eq_error_iff.mpr ⟨hge, rfl⟩]
      exact iff_of_true rfl (by omega)

/-- **The unchecked exception** of `getSource`. -/
theorem getSource_eq_arrayIndexOutOfBounds_iff (getPath : String → Option String) (url : String) :
    getSource getPath url = .error .arrayIndexOutOfBounds ↔ ShortGistUrl getPath url := by
  rw [getSource, ShortGistUrl]
  dsimp only
  cases hpath : getPath url with
  | none =>
    refine iff_of_false ?_ (by simp)
    split
    · exact nofun
    · split
      · exact nofun
      · split <;> exact nofun
  | some path =>
    split
    next hgithub => exact iff_of_false (newGitHub_ne_arrayIndexOutOfBounds path) (by simp [hgithub])
    next hgithub =>
      split
      next hgist => simp [hgithub, hgist, newGist_eq_arrayIndexOutOfBounds_iff]
      next hgist =>
        refine iff_of_false ?_ (by simp [hgist])
        split
        · exact newGitLab_ne_arrayIndexOutOfBounds path
        · exact nofun

end GitHostsSource

end AdAway
