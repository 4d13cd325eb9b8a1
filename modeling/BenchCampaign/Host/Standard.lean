import BenchCampaign.Shell.Interpreter

/-!
# A host to rehearse on

A host with the usual programs and an empty directory to work in, on which
runners can be tried out before they meet a cluster.

* `Host.standard`: the host.
* `Host.provide`: the host with one more file.
-/

namespace BenchCampaign

namespace Host

/-- The programs of a host. -/
def standardPrograms : List String :=
  Shell.State.shells ++ Shell.Launcher.names ++ Shell.Utility.table.map Prod.fst

/-- The directories that programs lie in. -/
def programDirectories : List Location := [["bin"], ["usr", "bin"]]

/-- What lies on a host from the start. -/
def standardTree : FileTree :=
  ⟨[["bin"], ["usr"], ["usr", "bin"], ["dev"], ["etc"], ["root"], ["tmp"], ["work"]].map
      (fun l => (l, .directory)) ++
    [(["dev", "null"], .device .null), (["dev", "zero"], .device .zero),
      (["dev", "full"], .device .full)] ++
    programDirectories.flatMap fun d =>
      standardPrograms.map fun name => (d ++ [name], .file ⟨0o755, .program name⟩)⟩

/-- A host with the usual programs, where one works in an empty directory. -/
def standard : Host :=
  { tree := standardTree
    directory := ["work"]
    searchPath := ["/usr/local/sbin", "/usr/local/bin", "/usr/sbin", "/usr/bin", "/sbin", "/bin"] }

/-- One name further, whatever lies there. -/
def stepFreely (l : Location) (name : List Char) : Location :=
  if name = [] || name = ['.'] then l
  else if name = ['.', '.'] then l.dropLast
  else l ++ [String.ofList name]

/-- The host with a file at a path, and the directories above it. -/
def provide (h : Host) (path : String) (f : RegularFile) : Host :=
  let l := (Path.names path.toList).foldl stepFreely (h.start path.toList)
  { h with tree := (h.tree.makeDirectories l.dropLast).put l (.file f) }

end Host

end BenchCampaign
