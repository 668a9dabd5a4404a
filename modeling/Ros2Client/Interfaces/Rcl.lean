import Ros2Client.Parameters.Value

namespace Ros2Client

structure ListParametersRequest where
  prefixes : List Str
  depth : UInt64
deriving DecidableEq

structure ListParametersResult where
  names : List Str
  prefixes : List Str
deriving DecidableEq

structure ListParametersResponse where
  result : ListParametersResult
deriving DecidableEq

structure GetParametersRequest where
  names : List Str
deriving DecidableEq

structure GetParametersResponse where
  values : List Raw.ParameterValue
deriving DecidableEq

structure GetParameterTypesRequest where
  names : List Str
deriving DecidableEq

structure GetParameterTypesResponse where
  values : List UInt8
deriving DecidableEq

structure SetParametersRequest where
  parameter : List Raw.Parameter
deriving DecidableEq

structure SetParametersResponse where
  results : List Raw.SetParametersResult
deriving DecidableEq

structure DescribeParametersRequest where
  names : List Str
deriving DecidableEq

structure DescribeParametersResponse where
  values : List Raw.ParameterDescriptor
deriving DecidableEq

end Ros2Client
