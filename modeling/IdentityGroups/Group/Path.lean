import IdentityGroups.Text.Percent

/-! # Where groups are addressed

Groups are created at the collection, read, updated and deleted by id, and looked up by name. A
name is one segment of its path whatever characters it holds.
-/

namespace IdentityGroups.Group

def collectionPath : String := "/identity/group"

def idPath (id : String) : String := collectionPath ++ "/id/" ++ id

def namePath (name : String) : String := collectionPath ++ "/name/" ++ Text.Percent.encode name

end IdentityGroups.Group
