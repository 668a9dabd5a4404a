import Ros2Client.Text.Str

namespace Ros2Client

inductive InterfaceKind
  | msg
  | srv
  | action
deriving DecidableEq

def InterfaceKind.text : InterfaceKind → Str
  | .msg => "msg".toList
  | .srv => "srv".toList
  | .action => "action".toList

/-- The name of a message type. The names of the package and the type are not checked. -/
structure MessageTypeName where
  kind : InterfaceKind
  ros2PackageName : Str
  ros2TypeName : Str
deriving DecidableEq

def MessageTypeName.new (packageName typeName : Str) : MessageTypeName := ⟨.msg, packageName, typeName⟩

def slashToColons (text : Str) : Str := Text.replace '/' "::".toList text

def MessageTypeName.ddsMsgType (type : MessageTypeName) : Str :=
  slashToColons (type.ros2PackageName ++ "/".toList ++ type.kind.text ++ "/dds_/".toList ++ type.ros2TypeName ++
    "_".toList)

structure ServiceTypeName where
  kind : InterfaceKind
  msg : MessageTypeName
deriving DecidableEq

def ServiceTypeName.new (packageName typeName : Str) : ServiceTypeName :=
  ⟨.srv, MessageTypeName.new packageName typeName⟩

def ServiceTypeName.ddsServiceType (type : ServiceTypeName) : Str :=
  slashToColons (type.msg.ros2PackageName ++ "/".toList ++ type.kind.text ++ "/dds_/".toList ++
    type.msg.ros2TypeName ++ "_".toList)

structure ActionTypeName where
  msg : MessageTypeName
deriving DecidableEq

def ActionTypeName.new (packageName typeName : Str) : ActionTypeName := ⟨MessageTypeName.new packageName typeName⟩

def ActionTypeName.ddsActionTopic (type : ActionTypeName) (topic : Str) : MessageTypeName :=
  ⟨.action, type.msg.ros2PackageName, type.msg.ros2TypeName ++ topic⟩

def ActionTypeName.ddsActionService (type : ActionTypeName) (srv : Str) : ServiceTypeName :=
  ⟨.action, MessageTypeName.new type.msg.ros2PackageName (type.msg.ros2TypeName ++ srv)⟩

inductive EndpointType
  | message (type : MessageTypeName)
  | service (type : ServiceTypeName)

def EndpointType.ddsType : EndpointType → Str
  | .message type => type.ddsMsgType
  | .service type => type.ddsServiceType

theorem slash_not_mem_slashToColons (text : Str) : '/' ∉ slashToColons text :=
  Text.not_mem_replace (by decide) text

theorem MessageTypeName.slash_not_mem_ddsMsgType (type : MessageTypeName) : '/' ∉ type.ddsMsgType :=
  slash_not_mem_slashToColons _

theorem ServiceTypeName.slash_not_mem_ddsServiceType (type : ServiceTypeName) : '/' ∉ type.ddsServiceType :=
  slash_not_mem_slashToColons _

theorem EndpointType.slash_not_mem_ddsType (type : EndpointType) : '/' ∉ type.ddsType := by
  cases type with
  | message type => exact type.slash_not_mem_ddsMsgType
  | service type => exact type.slash_not_mem_ddsServiceType

end Ros2Client
