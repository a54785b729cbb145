import ScopedConfig.Keyword.Registry

/-! The built-in keywords: those of the drivers, of all objects, and of nodes. -/
namespace ScopedConfig.Catalog

/-- A keyword for some kinds, without more. -/
def keyword (kinds : KindSet) (sectionName option : String) : Keyword :=
  { Keyword.plain sectionName option with kinds }

/-- A keyword of services and volumes. -/
def ofServices (sectionName option : String) : Keyword := keyword .services sectionName option

/-- A keyword of services and volumes that takes scopes. -/
def scopableOfServices (sectionName option : String) : Keyword :=
  { ofServices sectionName option with scopable := true }

/-- A keyword of nodes. -/
def ofNodes (sectionName option : String) : Keyword := keyword (.single .node) sectionName option

/-- Texts of literals. -/
def texts (literals : List String) : List Text := literals.map String.toList

/-- The keywords of the drivers. -/
def drivers : List Keyword :=
  [{ ofServices "ip" "type" with candidates := texts ["host", "netns", "cni"] },
   { scopableOfServices "ip" "ipname" with required := true },
   scopableOfServices "ip" "ipdev",
   scopableOfServices "ip" "netmask",
   { ofServices "ip" "netns" with
     types := texts ["netns", "cni"]
     text := "Container resource id owning the network namespace." },
   ofServices "fs" "type",
   { scopableOfServices "fs" "dev" with required := true },
   { scopableOfServices "fs" "mnt" with required := true },
   scopableOfServices "fs" "mnt_opt",
   { scopableOfServices "fs" "size" with provisioning := true, converter := some .size },
   { ofServices "disk" "type" with candidates := texts ["vg", "lv", "loop", "disk"] },
   scopableOfServices "disk" "name",
   { scopableOfServices "disk" "size" with provisioning := true, converter := some .size },
   { ofServices "app" "type" with candidates := texts ["simple", "forking"] },
   scopableOfServices "app" "script",
   scopableOfServices "app" "start",
   scopableOfServices "app" "stop",
   { scopableOfServices "app" "timeout" with converter := some .duration },
   { ofServices "app" "umask" with converter := some .umask },
   { scopableOfServices "task" "command" with converter := some .shlex },
   scopableOfServices "task" "schedule"]

/-- The keywords of all objects. -/
def objects : List Keyword :=
  [{ keyword .objects "DEFAULT" "id" with
     text := "Unique identifier, generated on first commit." },
   { keyword .objects "DEFAULT" "nodes" with
     converter := some .list
     text := "Nodes the object is deployed on." },
   { ofServices "DEFAULT" "drpnodes" with
     converter := some .list
     text := "Disaster recovery nodes." },
   { ofServices "DEFAULT" "encapnodes" with
     converter := some .list
     text := "Nodes encapsulated in the object's containers." },
   { ofServices "DEFAULT" "topology" with
     default := "failover"
     candidates := texts ["failover", "flex"] },
   { ofServices "DEFAULT" "orchestrate" with
     default := "no"
     candidates := texts ["no", "ha", "start"] },
   { ofServices "DEFAULT" "priority" with converter := some .int, default := "50" },
   { keyword .objects "DEFAULT" "app" with default := "default" },
   { scopableOfServices "DEFAULT" "env" with default := "TST" },
   keyword .objects "" "comment",
   { scopableOfServices "" "tags" with converter := some .set },
   { scopableOfServices "" "disable" with converter := some .bool },
   { scopableOfServices "" "optional" with converter := some .bool },
   scopableOfServices "" "subset"]

/-- The keywords of nodes. -/
def nodes : List Keyword :=
  [{ ofNodes "node" "env" with
     scopable := true
     default := "TST"
     candidates := texts
       ["DEV", "DRP", "FOR", "INT", "PRA", "PRD", "PRJ", "PPRD", "QUAL", "REC", "STG", "TMP",
        "TST", "UAT"] },
   { ofNodes "node" "maintenance_grace_period" with
     converter := some .duration
     default := "60" },
   ofNodes "node" "sec_zone",
   ofNodes "node" "asset_env",
   { ofNodes "cluster" "name" with default := "default" },
   { ofNodes "cluster" "nodes" with converter := some .list },
   { ofNodes "cluster" "drpnodes" with converter := some .list }]

/-- The registry of the built-in keywords. -/
def registry : Registry := ⟨drivers ++ objects ++ nodes⟩

end ScopedConfig.Catalog
