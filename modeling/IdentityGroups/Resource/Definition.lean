import IdentityGroups.Json.Yaml

/-! # The definition of the resource kind

What Kubernetes is told of the kind: its names, the columns in which its resources are listed, and
the schema of what they ask for and report.
-/

namespace IdentityGroups.Definition

def group : String := "vault.oso.sh"
def version : String := "v1alpha1"
def apiVersion : String := group ++ "/" ++ version
def kind : String := "VaultIdentityGroup"
def plural : String := "vaultidentitygroups"
def singular : String := "vaultidentitygroup"
def shortNames : List String := ["vig"]
def name : String := plural ++ "." ++ group

def schema (type description : String) (more : List (String × Json)) : Json :=
  .object ([("type", .str type), ("description", .str description)] ++ more)

def nullable : String × Json := ("nullable", .bool true)

def textSchema : Json := .object [("type", .str "string")]

def text (description : String) : Json := schema "string" description []
def optionalText (description : String) : Json := schema "string" description [nullable]

def optionalTexts (description : String) : Json :=
  schema "array" description [nullable, ("items", textSchema)]

def optionalTextDict (description : String) : Json :=
  schema "object" description [nullable, ("additionalProperties", textSchema)]

def kinds : String × Json := ("enum", .ofTexts ["internal", "external"])

def dateTime : String × Json := ("format", .str "date-time")

def required (names : List String) : String × Json := ("required", .ofTexts names)

def properties (members : List (String × Json)) : String × Json := ("properties", .object members)

def specSchema : Json := schema "object" "VaultIdentityGroup resource specification" [
  required ["name"],
  properties [
    ("name", text "Name of the group. Changing it replaces the group."),
    ("type", schema "string"
      "Type of the group, internal or external. Changing it replaces the group."
      [("default", .str "internal"), kinds]),
    ("metadata", optionalTextDict "Metadata to be associated with the group"),
    ("policies", optionalTexts "Policies to be tied to the group"),
    ("memberGroupIds", optionalTexts "Group IDs to be assigned as group members"),
    ("memberEntityIds", optionalTexts "Entity IDs to be assigned as group members")]]

def conditionSchema : Json := schema "object" "Status condition" [
  required ["lastTransitionTime", "status", "type"],
  properties [
    ("type", text "Condition type"),
    ("status", text "Status (True, False, Unknown)"),
    ("lastTransitionTime", schema "string" "Last transition time" [dateTime]),
    ("reason", optionalText "Reason for the condition"),
    ("message", optionalText "Human-readable message")]]

def statusSchema : Json := schema "object" "VaultIdentityGroup status" [
  nullable,
  properties [
    ("id", optionalText "ID Vault assigned to the group"),
    ("phase", optionalText "Current phase (Pending, Ready, Drifted, Failed)"),
    ("message", optionalText "Human-readable message"),
    ("name", optionalText "Group name last observed in Vault"),
    ("type", schema "string" "Group type last observed in Vault" [nullable, kinds]),
    ("metadata", optionalTextDict "Metadata last observed in Vault"),
    ("memberGroupIds", optionalTexts "Member group IDs last observed in Vault"),
    ("memberEntityIds", optionalTexts "Member entity IDs last observed in Vault"),
    ("lastSyncTime", schema "string" "Last successful sync with Vault" [nullable, dateTime]),
    ("observedGeneration", schema "integer" "Observed generation"
      [nullable, ("format", .str "int64")]),
    ("conditions", schema "array" "Conditions" [("default", .arr []), ("items", conditionSchema)])]]

def resourceSchema : Json :=
  schema "object" "Auto-generated derived type for VaultIdentityGroupSpec via `CustomResource`" [
    ("title", .str kind), required ["spec"],
    properties [("spec", specSchema), ("status", statusSchema)]]

def column (name type path : String) : Json :=
  .object [("name", .str name), ("type", .str type), ("jsonPath", .str path)]

def versionObject : Json := .object [
  ("name", .str version), ("served", .bool true), ("storage", .bool true),
  ("subresources", .object [("status", .object [])]),
  ("schema", .object [("openAPIV3Schema", resourceSchema)]),
  ("additionalPrinterColumns", .arr [
    column "Group" "string" ".spec.name",
    column "Type" "string" ".spec.type",
    column "Phase" "string" ".status.phase",
    column "ID" "string" ".status.id",
    column "Age" "date" ".metadata.creationTimestamp"])]

def object : Json := .object [
  ("apiVersion", .str "apiextensions.k8s.io/v1"),
  ("kind", .str "CustomResourceDefinition"),
  ("metadata", .object [("name", .str name)]),
  ("spec", .object [
    ("group", .str group), ("scope", .str "Namespaced"),
    ("names", .object [
      ("categories", .arr []), ("kind", .str kind), ("plural", .str plural),
      ("shortNames", .ofTexts shortNames), ("singular", .str singular)]),
    ("versions", .arr [versionObject])])]

def manifests : List String := [object.yaml]

def stream : String := String.join (manifests.map ("---\n" ++ ·))

end IdentityGroups.Definition
